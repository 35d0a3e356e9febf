import Trillionnium.Transport.Lemmas.Account

namespace Transport

open Host (Externals TurnContext frameHostError)
open Json Protocol Stateful Triple

variable {handshake : TransportHandshake} {frame : RunTurnFrame}

variable {codec : FloatCodec} {options : Options}

namespace TransportHandshake

def IsShut (handshake : TransportHandshake) : Prop := handshake.holdsLocalDelivery = false

def IsHolding (handshake : TransportHandshake) : Prop := handshake.holdsLocalDelivery = true

def IsGreeted (handshake : TransportHandshake) : Prop := handshake.awaitingAck = false

def IsTurnPending (handshake : TransportHandshake) : Prop :=
  handshake.awaitingAck = false ∧ handshake.turnPending = true

theorem isShut_iff :
    handshake.IsShut ↔ handshake.awaitingAck = false ∧ handshake.turnPending = false := by
  unfold IsShut holdsLocalDelivery
  exact Bool.or_eq_false_iff

theorem IsTurnPending.not_isShut (h : handshake.IsTurnPending) :
    ¬ handshake.holdsLocalDelivery = false := by
  intro hshut
  have hpending := (isShut_iff.mp hshut).2
  rw [h.2] at hpending
  cases hpending

theorem defer_eq_ok (h : handshake.defer codec action = .ok handshake') : ∃ total, handshake'
      = { handshake with deferredBytes := total, deferred := handshake.deferred ++ [action] } := by
  unfold defer at h
  split at h
  . cases h
  next total _ =>
    cases h
    exact ⟨total, rfl⟩

theorem restoreDeferred_eq_ok {actions : List DeferredHandshakeAction}
    (h : handshake.restoreDeferred codec actions = .ok handshake') : ∃ total, handshake'
      = { handshake with deferredBytes := total, deferred := handshake.deferred ++ actions } := by
  unfold restoreDeferred at h
  induction actions generalizing handshake with
  | nil =>
    cases h
    exact ⟨handshake'.deferredBytes, by rw [List.append_nil]⟩
  | cons action actions ih =>
    rw [List.foldlM_cons] at h
    obtain ⟨first, hfirst, h⟩ := Except.bind_eq_ok.mp h
    obtain ⟨_, rfl⟩ := defer_eq_ok hfirst
    obtain ⟨total, rfl⟩ := ih h
    exact ⟨total, by rw [List.append_assoc, List.singleton_append]⟩

end TransportHandshake

open TransportHandshake

variable {p : RunTurnFrame → Prop} {q r : Prop} {log : List Event}
  {rest : List DeferredHandshakeAction} {G G' : TransportHandshake → Prop}

theorem onlyIf_account {P Q : Loop → Prop} (hm : c = true → Triple P m (fun _ => Q))
    (hn : c = false → ∀ s, P s → Q s) :
    Triple P (onlyIf c m) (fun _ => Q) := by
  unfold onlyIf
  exact ite hm fun hc => pure (hn (Bool.eq_false_iff.mpr hc))

theorem Account.take {s s' : Loop} (h : Account p q r log rest G s) (events : List Event)
    (hlog : s'.log = s.log ++ events) (hdeferral : events.flatMap Event.deferral = [])
    (hdisposal : events.flatMap Event.disposal = [])
    (hwithin : ∀ event ∈ events, event.Within p q r) (htaken : s'.handshake.deferred = [])
    (hwrote : s'.Wrote) (hgates : G' s'.handshake) : Account p q r log (s.handshake.deferred ++ rest) G' s' := by
  refine h.step events hlog hwithin ?_ (fun _ => htaken) hwrote hgates
  rw [hdeferral, hdisposal, htaken, List.append_nil, List.nil_append, List.nil_append]
  exact List.perm_append_comm

theorem setHandshake_take {handshake' : TransportHandshake} (htaken : handshake'.deferred = [])
    (hgates : G' handshake') :
    Triple (Account p q r log rest (· = handshake)) (setHandshake handshake')
      (fun _ => Account p q r log (handshake.deferred ++ rest) G') := by
  refine modify ?_
  intro s h
  rw [← h.gates]
  exact h.take [] (List.append_nil s.log).symm rfl rfl (by simp) htaken (h.wrote.congr rfl rfl) hgates

theorem failGates_account :
    Triple (Account p q r log rest (· = handshake))
      (failGates codec handshake helloError turnError)
      (fun _ => Account p q r log rest IsShut) := by
  unfold failGates
  refine bind (setHandshake_take rfl (show IsShut _ from rfl)) fun _ => ?_
  refine bind isQuiet_writeLocalError.onlyIf.account fun _ => ?_
  refine bind isQuiet_writeLocalError.onlyIf.account fun _ => ?_
  exact rejectDeferredActions_account

theorem failPendingHandshake_account :
    Triple (Account p q r log rest G) (failPendingHandshake codec helloError turnError)
      (fun _ => Account p q r log rest IsShut) := by
  unfold failPendingHandshake
  refine get_bind fun s hs => ?_
  refine onlyIf_account (P := Account p q r log rest (· = s.handshake)) ?_ ?_ s (hs.mono fun _ => rfl)
  . intro _
    exact failGates_account
  . intro hshut s' hs'
    refine hs'.mono ?_
    rintro heq
    rw [heq]
    exact hshut

theorem deferAction_account :
    Triple (Account p q r log rest IsHolding) (deferAction codec action)
      (fun _ => Account p q r log rest fun _ => True) := by
  unfold deferAction
  refine get_bind fun s hs x s' hrun => ?_
  cases hdefer : s.handshake.defer codec action with
  | ok handshake =>
    rw [hdefer] at hrun
    obtain ⟨total, rfl⟩ := defer_eq_ok hdefer
    cases hrun
    refine hs.step [.deferred action] rfl ?_ ?_ ?_ (hs.wrote.single rfl rfl rfl) trivial
    . exact List.forall_mem_singleton.mpr trivial
    . change ([action] ++ (rest ++ s.handshake.deferred)).Perm
        (rest ++ (s.handshake.deferred ++ [action]))
      rw [← List.append_assoc rest]
      exact List.perm_append_comm
    . intro hshut
      exact absurd (hs.gates.symm.trans hshut) (by decide)
  | error error =>
    rw [hdefer] at hrun
    refine bind (R := fun _ => Account p q r log rest fun _ => True)
      failPendingHandshake_account (fun _ => ?_) s hs x s' hrun
    exact pure fun _ h => h.mono fun _ => trivial

theorem deferLocal_account {binding : Option BrokerRequestBinding} :
    Triple (Account p q r log rest IsHolding) (deferLocal codec action binding)
      (fun _ => Account p q r log rest fun _ => True) := by
  unfold deferLocal
  refine bind deferAction_account fun result => ?_
  cases result with
  | none => exact pure fun _ h => h
  | some error => exact isQuiet_writeLocalError.account

theorem deferCore_account (frame : RunTurnFrame) :
    Triple (Account p q r log rest IsHolding) (deferCore codec frame)
      (fun _ => Account p q r log rest fun _ => True) :=
  bind deferAction_account fun _ => pure fun _ h => h

theorem writeLocalErrorOrDefer_account {code : String} {binding : Option BrokerRequestBinding} :
    Triple (Account p q r log rest G) (writeLocalErrorOrDefer codec context code message binding)
      (fun _ => Account p q r log rest fun _ => True) := by
  unfold writeLocalErrorOrDefer
  refine get_bind fun s hs => ?_
  split
  next hholding => exact deferLocal_account s (hs.mono fun _ => hholding)
  next => exact isQuiet_writeLocalError.account s (hs.mono fun _ => trivial)

theorem body_account (hgreeted : ∀ handshake, G handshake → handshake.awaitingAck = false)
    (hfinish : ∀ handshake turn, G handshake → handshake.turnPending = false →
      G (handshake.finishTurn turn)) :
    Triple (Account p q r log rest G) (processCoreFrameBody codec options frame)
      (fun _ => Account p q r log rest G) := by
  refine Moves.triple (processCoreFrameBody_almostQuietly frame) ?_
  rintro s s' h ⟨hhandshake, hlog, hwrote⟩ _
  cases hhandshake with
  | inl heq =>
    have hclosed := h.closed
    have hgates := h.gates
    rw [← heq] at hclosed hgates
    exact h.silently hlog (by rw [heq]) hclosed hwrote hgates
  | inr hfinished =>
    obtain ⟨hpending, turn, heq⟩ := hfinished
    have hempty := h.closed (isShut_iff.mpr ⟨hgreeted _ h.gates, hpending⟩)
    refine h.silently hlog ?_ ?_ hwrote ?_
    . rw [heq, hempty]
      rfl
    . intro _
      rw [heq]
      rfl
    . rw [heq]
      exact hfinish _ turn h.gates hpending

theorem body_account_isShut (frame : RunTurnFrame) :
    Triple (Account p q r log rest IsShut) (processCoreFrameBody codec options frame)
      (fun _ => Account p q r log rest IsShut) :=
  body_account (fun _ h => (isShut_iff.mp h).1) (fun _ _ _ _ => rfl)

theorem body_account_isGreeted (frame : RunTurnFrame) :
    Triple (Account p q r log rest IsGreeted) (processCoreFrameBody codec options frame)
      (fun _ => Account p q r log rest IsGreeted) :=
  body_account (fun _ h => h) (fun _ _ _ _ => rfl)

theorem body_account_pending (h : handshake.IsTurnPending) :
    Triple (Account p q r log rest (· = handshake)) (processCoreFrameBody codec options frame)
      (fun _ => Account p q r log rest (· = handshake)) := by
  refine body_account ?_ ?_
  . rintro _ rfl
    exact h.1
  . rintro _ _ rfl hpending
    rw [h.2] at hpending
    cases hpending

theorem emit_released_account (h : p frame) :
    Triple (Account p q r log (.core frame :: rest) G) (emit (.released frame))
      (fun _ => Account p q r log rest G) := by
  refine modify ?_
  intro s hs
  have hstep : Account p q r log ([.core frame] ++ rest) G s := hs
  refine hstep.dispose [.released frame] rfl rfl rfl rfl ?_ (hs.wrote.single rfl rfl rfl)
  exact List.forall_mem_singleton.mpr h

theorem releaseActions_account {actions : List DeferredHandshakeAction}
    (h : ∀ frame, .core frame ∈ actions → p frame) :
    Triple (Account p q r log (actions ++ rest) IsShut) (releaseActions codec options actions)
      (fun _ => Account p q r log rest IsShut) := by
  induction actions with
  | nil => exact pure fun _ hs => hs
  | cons action actions ih =>
    have ih := ih fun frame hmem => h frame (List.mem_cons_of_mem _ hmem)
    cases action with
    | localError error => exact bind (writeLocalError_account rfl) fun _ => ih
    | localFrame frame =>
      unfold releaseActions
      refine bind localFrame_account fun response => ?_
      refine bind (Q := fun _ => Account p q r log (actions ++ rest) IsShut) ?_ fun _ => ?_
      . rintro s ⟨hkind, hpayload, hs⟩
        have hresponse : DeferredHandshakeAction.IsResponse response (.localFrame frame) :=
          ⟨hkind, hpayload⟩
        exact answer_account rfl (.inr hresponse) s hs
      . exact bind isQuiet_drainFlow.onlyIf.account fun _ => ih
    | core frame =>
      unfold releaseActions
      refine bind (emit_released_account (h frame List.mem_cons_self)) fun _ => ?_
      refine bind (IsQuiet.lift _).account fun _ => ?_
      refine bind isQuiet_rewriteCore.account fun _ => ?_
      exact bind (body_account_isShut _) fun _ => ih

end Transport
