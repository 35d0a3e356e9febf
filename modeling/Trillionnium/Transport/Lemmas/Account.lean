import Trillionnium.Transport.Lemmas.Quiet

/-!
Every action that is deferred at the gates is answered, released, dropped or still in the queue. The
account of a state follows the actions through the functions that take them out of the queue.
-/

namespace Transport

open Host (Externals TurnContext frameHostError)
open Json Protocol Stateful

variable {actions : List DeferredHandshakeAction}

variable {codec : FloatCodec} {options : Options}

namespace DeferredHandshakeAction

def isLocal : DeferredHandshakeAction → Bool
  | .core _ => false
  | _ => true

def binding : DeferredHandshakeAction → Option BrokerRequestBinding
  | .localError error => error.binding
  | .localFrame frame => frame.binding
  | .core _ => none

def IsResponse (frame : RunTurnFrame) : DeferredHandshakeAction → Prop
  | .localFrame deferred => frame.kind = deferred.kind ∧ frame.payload
      = deferred.context.elim deferred.payload fun context =>
        deferred.payload.insert "turn_request_sha256" (.ofString context.requestSha256)
  | _ => False

end DeferredHandshakeAction

def Sent.Answers (message : Sent) (action : DeferredHandshakeAction) : Prop :=
  message.binding = action.binding ∧ action.isLocal = true
    ∧ (message.frame.kind = frameHostError ∨ action.IsResponse message.frame)

namespace Event

def deferral : Event → List DeferredHandshakeAction
  | .deferred action => [action]
  | _ => []

def disposal : Event → List DeferredHandshakeAction
  | .sent ⟨_, _, _, .answers action⟩ => [action]
  | .released frame => [.core frame]
  | .decided frame => [.core frame]
  | .discarded action => [action]
  | _ => []

def Within (released : RunTurnFrame → Prop) (rejects drops : Prop) : Event → Prop
  | .sent message => ∀ action, message.note = .answers action → message.Answers action
  | .released frame => released frame
  | .rejected _ _ => rejects
  | .discarded action => action.isLocal = true → drops
  | _ => True

theorem within_of_isSilent {event : Event} (h : event.isSilent = true) : event.Within p q r := by
  cases event with
  | sent message =>
    intro action hnote
    rw [isSilent, hnote] at h
    cases h
  | processed frame => trivial
  | _ => cases h

theorem deferral_of_isSilent {event : Event} (h : event.isSilent = true) : event.deferral = [] := by
  cases event with
  | deferred action => cases h
  | _ => rfl

theorem disposal_of_isSilent {event : Event} (h : event.isSilent = true) : event.disposal = [] := by
  cases event with
  | sent message =>
    obtain ⟨frame, binding, written, note⟩ := message
    cases note with
    | answers action => cases h
    | _ => rfl
  | processed frame => rfl
  | _ => cases h

end Event

variable {p : RunTurnFrame → Prop} {q r : Prop} {log : List Event}
  {rest : List DeferredHandshakeAction} {G : TransportHandshake → Prop}

structure Account (p : RunTurnFrame → Prop) (q r : Prop) (log : List Event)
    (rest : List DeferredHandshakeAction) (G : TransportHandshake → Prop) (s : Loop) : Prop where
  balance : (s.log.flatMap Event.deferral).Perm
    (s.log.flatMap Event.disposal ++ (rest ++ s.handshake.deferred))
  closed : s.handshake.holdsLocalDelivery = false → s.handshake.deferred = []
  events : ∃ events, s.log = log ++ events ∧ ∀ event ∈ events, event.Within p q r
  wrote : s.Wrote
  gates : G s.handshake

theorem Account.mono (h : Account p q r log rest G s) (himp : G s.handshake → G' s.handshake) :
    Account p q r log rest G' s :=
  { h with gates := himp h.gates }

theorem Account.step {s s' : Loop} {rest' : List DeferredHandshakeAction}
    {G' : TransportHandshake → Prop} (h : Account p q r log rest G s) (events : List Event)
    (hlog : s'.log = s.log ++ events) (hwithin : ∀ event ∈ events, event.Within p q r)
    (hperm : (events.flatMap Event.deferral ++ (rest ++ s.handshake.deferred)).Perm
      (events.flatMap Event.disposal ++ (rest' ++ s'.handshake.deferred)))
    (hclosed : s'.handshake.holdsLocalDelivery = false → s'.handshake.deferred = [])
    (hwrote : s'.Wrote) (hgates : G' s'.handshake) : Account p q r log rest' G' s' where
  balance := by
    rw [hlog, List.flatMap_append, List.flatMap_append, List.append_assoc]
    have hbefore := h.balance.append_right (events.flatMap Event.deferral)
    rw [List.append_assoc] at hbefore
    apply hbefore.trans
    apply List.Perm.append_left
    exact List.perm_append_comm.trans hperm
  closed := hclosed
  events := by
    obtain ⟨before, heq, hbefore⟩ := h.events
    exact ⟨before ++ events, by rw [hlog, heq, List.append_assoc],
      List.forall_mem_append.mpr ⟨hbefore, hwithin⟩⟩
  wrote := hwrote
  gates := hgates

theorem flatMap_silent {f : Event → List DeferredHandshakeAction} {events : List Event}
    (h : ∀ event ∈ events, event.isSilent = true)
    (hf : ∀ event : Event, event.isSilent = true → f event = []) : events.flatMap f = [] := by
  apply List.flatMap_eq_nil_iff.mpr
  intro event hmem
  exact hf event (h event hmem)

theorem Account.silently {s' : Loop} (h : Account p q r log rest G s) (hlog : Silently s.log s'.log)
    (hdeferred : s'.handshake.deferred = s.handshake.deferred)
    (hclosed : s'.handshake.holdsLocalDelivery = false → s'.handshake.deferred = [])
    (hwrote : s.Wrote → s'.Wrote) (hgates : G' s'.handshake) : Account p q r log rest G' s' := by
  obtain ⟨events, hlog, hsilent⟩ := hlog
  refine h.step events hlog (fun event hmem => Event.within_of_isSilent (hsilent event hmem)) ?_ hclosed
    (hwrote h.wrote) hgates
  rw [flatMap_silent hsilent fun _ => Event.deferral_of_isSilent,
    flatMap_silent hsilent fun _ => Event.disposal_of_isSilent, hdeferred]

theorem IsQuiet.account (h : IsQuiet m) :
    Triple (Account p q r log rest G) m (fun _ => Account p q r log rest G) := by
  refine Moves.triple h ?_
  rintro s s' haccount ⟨hhandshake, hlog, hwrote⟩ _
  have hclosed := haccount.closed
  have hgates := haccount.gates
  rw [← hhandshake] at hclosed hgates
  exact haccount.silently hlog (by rw [hhandshake]) hclosed hwrote hgates

theorem Account.dispose {s' : Loop} (h : Account p q r log (actions ++ rest) G s)
    (events : List Event) (hlog : s'.log = s.log ++ events)
    (hhandshake : s'.handshake = s.handshake) (hdeferral : events.flatMap Event.deferral = [])
    (hdisposal : events.flatMap Event.disposal = actions)
    (hwithin : ∀ event ∈ events, event.Within p q r) (hwrote : s'.Wrote) :
    Account p q r log rest G s' := by
  have hclosed := h.closed
  have hgates := h.gates
  rw [← hhandshake] at hclosed hgates
  refine h.step events hlog hwithin ?_ hclosed hwrote hgates
  rw [hdeferral, hdisposal, hhandshake, List.nil_append, List.append_assoc]

theorem flatMap_discarded :
    (actions.map Event.discarded).flatMap Event.disposal = actions
      ∧ (actions.map Event.discarded).flatMap Event.deferral = [] := by
  induction actions with
  | nil => exact ⟨rfl, rfl⟩
  | cons action actions ih =>
    rw [List.map_cons, List.flatMap_cons, List.flatMap_cons, ih.1, ih.2]
    exact ⟨rfl, rfl⟩

theorem discard_account (actions : List DeferredHandshakeAction)
    (hdrops : ∀ action ∈ actions, action.isLocal = true → r) :
    Triple (Account p q r log (actions ++ rest) G) (discard actions)
      (fun _ => Account p q r log rest G) := by
  apply Triple.modify
  intro s h
  refine h.dispose (actions.map .discarded) rfl rfl flatMap_discarded.2
    flatMap_discarded.1 ?_ ?_
  . intro event hmem
    obtain ⟨action, haction, rfl⟩ := List.mem_map.mp hmem
    exact hdrops action haction
  . refine h.wrote.append (actions.map .discarded) rfl (fun h => h) ?_
    intro _ event hmem
    obtain ⟨action, _, rfl⟩ := List.mem_map.mp hmem
    rfl

theorem answer_account {action : DeferredHandshakeAction} {frame : RunTurnFrame}
    (hlocal : action.isLocal = true)
    (hframe : frame.kind = frameHostError ∨ action.IsResponse frame) :
    Triple (Account p q r log (action :: rest) G)
      (sendWithBinding codec frame action.binding (.answers action))
      (fun _ => Account p q r log rest G) := by
  unfold sendWithBinding
  refine Triple.get_bind fun s h x s' hrun => ?_
  obtain ⟨outcome, delivery, hsend, rfl⟩ := settleSend_eq_ok hrun
  obtain ⟨hsound, hbinding⟩ := sound_sendWithBinding hsend
  have hstep : Account p q r log ([action] ++ rest) G s := h
  refine hstep.dispose [.sent ⟨frame, outcome.binding, outcome.written, .answers action⟩]
    rfl rfl rfl rfl ?_ (hsound.wrote h.wrote frame _)
  rw [List.forall_mem_singleton]
  rintro action' ⟨⟩
  exact ⟨hbinding, hlocal, hframe⟩

theorem localFrame_account {kind : String} {payload : Document} :
    Triple (Account p q r log rest G) (localFrame kind payload context)
      (fun frame s => frame.kind = kind ∧ frame.payload = (context.elim payload fun context =>
          payload.insert "turn_request_sha256" (.ofString context.requestSha256))
        ∧ Account p q r log rest G s) := by
  apply Triple.modifyGet
  intro s h
  exact ⟨rfl, rfl, h.silently (.refl _) rfl h.closed (fun h => h.congr rfl rfl) h.gates⟩

theorem writeLocalError_account {action : DeferredHandshakeAction} (hlocal : action.isLocal = true)
    {code : String} :
    Triple (Account p q r log (action :: rest) G)
      (writeLocalErrorForBinding codec context code message action.binding (.answers action))
      (fun _ => Account p q r log rest G) := by
  unfold writeLocalErrorForBinding
  refine Triple.bind localFrame_account ?_
  intro frame s h
  exact answer_account hlocal (.inl h.1) s h.2.2

theorem rejectDeferredActions_account {code : String} :
    Triple (Account p q r log (actions ++ rest) G)
      (rejectDeferredActions codec code message actions) (fun _ => Account p q r log rest G) := by
  induction actions with
  | nil => exact Triple.pure fun _ h => h
  | cons action actions ih =>
    cases action with
    | localError _ | localFrame _ =>
      exact Triple.bind (writeLocalError_account rfl) fun _ => ih
    | core frame =>
      refine Triple.bind (discard_account [.core frame] ?_) fun _ => ih
      intro action hmem hlocal
      rw [List.mem_singleton.mp hmem] at hlocal
      cases hlocal

end Transport
