import Trillionnium.Machine.Stateful
import Trillionnium.Transport.Impl.Run

/-!
Most of what the transport does leaves the gates alone: it sends frames, counts them and forgets
requests.
-/

namespace Transport

open Host (Externals TurnContext)
open Json Protocol Stateful

variable {binding : Option BrokerRequestBinding} {frame : RunTurnFrame}

variable {codec : FloatCodec} {options : Options}

def Note.answersNothing : Note → Bool
  | .answers _ => false
  | _ => true

def Event.isSilent : Event → Bool
  | .sent message => message.note.answersNothing
  | .processed _ => true
  | _ => false

def Silently (log log' : List Event) : Prop :=
  ∃ events : List Event, log' = log ++ events ∧ ∀ event ∈ events, event.isSilent = true

theorem Silently.refl (log : List Event) : Silently log log :=
  ⟨[], by rw [List.append_nil], by simp⟩

theorem Silently.trans (hab : Silently a b) (hbc : Silently b c) : Silently a c := by
  obtain ⟨first, rfl, hfirst⟩ := hab
  obtain ⟨second, rfl, hsecond⟩ := hbc
  exact ⟨first ++ second, List.append_assoc a first second,
    List.forall_mem_append.mpr ⟨hfirst, hsecond⟩⟩

theorem Silently.single (log : List Event) {event : Event} (h : event.isSilent = true) :
    Silently log (log ++ [event]) :=
  ⟨[event], rfl, List.forall_mem_singleton.mpr h⟩

def Event.isWritten : Event → Bool
  | .sent message => message.written
  | _ => true

def Loop.Wrote (s : Loop) : Prop :=
  s.delivery.attached = true → ∀ event ∈ s.log, event.isWritten = true

variable {s s' : Loop} {α : Type} {delivery : ClientDelivery} {frame : RunTurnFrame}
  {result : Outcome × ClientDelivery} {note : Note}

theorem Loop.Wrote.append (h : s.Wrote) (events : List Event) (hlog : s'.log = s.log ++ events)
    (hattached : s'.delivery.attached = true → s.delivery.attached = true)
    (hwritten : s'.delivery.attached = true → ∀ event ∈ events, event.isWritten = true) :
    s'.Wrote := by
  intro hopen
  rw [hlog]
  exact List.forall_mem_append.mpr ⟨h (hattached hopen), hwritten hopen⟩

theorem Loop.Wrote.single (h : s.Wrote) (hlog : s'.log = s.log ++ [event])
    (hattached : s'.delivery.attached = s.delivery.attached) (hwritten : event.isWritten = true) :
    s'.Wrote := by
  refine h.append [event] hlog hattached.symm.trans ?_
  intro _
  exact List.forall_mem_singleton.mpr hwritten

theorem Loop.Wrote.congr (h : s.Wrote) (hlog : s'.log = s.log)
    (hattached : s'.delivery.attached = s.delivery.attached) : s'.Wrote := by
  unfold Loop.Wrote at h ⊢
  rw [hlog, hattached]
  exact h

structure Quietly (s s' : Loop) : Prop where
  handshake : s'.handshake = s.handshake
  silently : Silently s.log s'.log
  wrote : s.Wrote → s'.Wrote

theorem Quietly.refl (s : Loop) : Quietly s s := ⟨rfl, .refl s.log, fun h => h⟩

theorem Quietly.trans (hab : Quietly a b) (hbc : Quietly b c) : Quietly a c :=
  ⟨hbc.handshake.trans hab.handshake, hab.silently.trans hbc.silently,
    fun h => hbc.wrote (hab.wrote h)⟩

def IsQuiet {α : Type} (m : Action α) : Prop := Moves Quietly m

theorem IsQuiet.pure (x : α) : IsQuiet (Pure.pure x : Action α) :=
  Moves.pure Quietly.refl x

theorem IsQuiet.bind {β : Type} {f : α → Action β} (hm : IsQuiet m) (hf : ∀ x, IsQuiet (f x)) :
    IsQuiet (m >>= f) :=
  Moves.bind (R := Quietly) (fun _ _ _ => Quietly.trans) hm hf

theorem IsQuiet.get : IsQuiet (get : Action Loop) := by
  rintro s _ _ ⟨⟩
  exact Quietly.refl s

theorem IsQuiet.lift (x : Except String α) : IsQuiet (liftM x : Action α) :=
  Moves.lift Quietly.refl x

theorem Quietly.of_eq (hhandshake : s'.handshake = s.handshake) (hlog : s'.log = s.log)
    (hattached : s'.delivery.attached = s.delivery.attached) : Quietly s s' := by
  refine ⟨hhandshake, ?_, fun h => h.congr hlog hattached⟩
  rw [hlog]
  exact .refl s.log

theorem IsQuiet.modify {f : Loop → Loop}
    (hhandshake : ∀ s, (f s).handshake = s.handshake := by exact fun _ => rfl)
    (hlog : ∀ s, (f s).log = s.log := by exact fun _ => rfl)
    (hattached : ∀ s, (f s).delivery.attached = s.delivery.attached := by exact fun _ => rfl) :
    IsQuiet (modify f : Action Unit) :=
  Moves.modify fun s => .of_eq (hhandshake s) (hlog s) (hattached s)

theorem IsQuiet.modifyGet {f : Loop → α × Loop} (hhandshake : ∀ s, (f s).2.handshake = s.handshake)
    (hlog : ∀ s, (f s).2.log = s.log)
    (hattached : ∀ s, (f s).2.delivery.attached = s.delivery.attached) :
    IsQuiet (modifyGet f : Action α) :=
  Moves.modifyGet fun s => .of_eq (hhandshake s) (hlog s) (hattached s)

theorem IsQuiet.onlyIf (h : IsQuiet m) : IsQuiet (Transport.onlyIf c m) := by
  unfold Transport.onlyIf
  exact Moves.ite (fun _ => h) (fun _ => IsQuiet.pure _)

theorem IsQuiet.forM (xs : List α) {f : α → Action Unit} (h : ∀ x, IsQuiet (f x)) :
    IsQuiet (xs.forM f) :=
  Moves.forM (R := Quietly) Quietly.refl (fun _ _ _ => Quietly.trans) xs h

theorem isQuiet_emitProcessed (frame : RunTurnFrame) : IsQuiet (emit (.processed frame)) := by
  apply Moves.modify
  intro s
  exact ⟨rfl, .single s.log rfl, fun h => h.single rfl rfl rfl⟩

theorem isQuiet_setFlow : IsQuiet (setFlow flow) :=
  IsQuiet.modify

theorem isQuiet_setActive : IsQuiet (setActive active) :=
  IsQuiet.modify

theorem isQuiet_modifyRouter (f : BrokerBindingRouter → BrokerBindingRouter) :
    IsQuiet (modifyRouter f) :=
  IsQuiet.modify

theorem isQuiet_discardBrokerBinding : IsQuiet (discardBrokerBinding binding) := by
  cases binding with
  | none => exact IsQuiet.pure _
  | some binding =>
    unfold discardBrokerBinding
    exact isQuiet_modifyRouter _

theorem isQuiet_localFrame {kind : String} {payload : Document} :
    IsQuiet (localFrame kind payload context) :=
  IsQuiet.modifyGet (fun _ => rfl) (fun _ => rfl) (fun _ => rfl)

theorem isQuiet_rewriteCore : IsQuiet (rewriteCore frame) :=
  IsQuiet.modifyGet (fun _ => rfl) (fun _ => rfl) (fun _ => rfl)

def Outcome.Sound (delivery : ClientDelivery) (result : Outcome × ClientDelivery) : Prop :=
  result.2.attached = true → delivery.attached = true ∧ result.1.written = true

theorem attached_writeEncoded (h : delivery.writeEncoded.2.attached = true) :
    delivery.attached = true ∧ delivery.writeEncoded.1 = true := by
  unfold ClientDelivery.writeEncoded at h ⊢
  split at h
  next hattached =>
    refine ⟨hattached, ?_⟩
    rw [if_pos hattached]
    cases houtcome : delivery.outcomes delivery.writes with
    | none => rfl
    | some error =>
      rw [houtcome] at h
      cases h
  next hdetached => exact absurd h hdetached

theorem sound_sendWithSelectedBinding
    (h : delivery.sendWithSelectedBinding codec frame binding = .ok result) :
    Outcome.Sound delivery result ∧ result.1.binding = binding := by
  unfold ClientDelivery.sendWithSelectedBinding at h
  obtain ⟨bound, _, h⟩ := Except.bind_eq_ok.mp h
  split at h
  . cases h
  . cases h
    exact ⟨attached_writeEncoded, rfl⟩

theorem sound_send (h : delivery.send codec frame = .ok result) :
    Outcome.Sound delivery result := by
  unfold ClientDelivery.send at h
  split at h
  . obtain ⟨validated, _, h⟩ := Except.bind_eq_ok.mp h
    have hsound := (sound_sendWithSelectedBinding h).1
    exact hsound
  . exact (sound_sendWithSelectedBinding h).1

theorem sound_sendWithBinding (h : delivery.sendWithBinding codec frame binding = .ok result) :
    Outcome.Sound delivery result ∧ result.1.binding = binding := by
  cases binding with
  | none => exact sound_sendWithSelectedBinding h
  | some binding =>
    obtain ⟨validated, _, h⟩ := Except.bind_eq_ok.mp h
    have hsound := sound_sendWithSelectedBinding h
    exact hsound

theorem settleSend_eq_ok {result : Except String (Outcome × ClientDelivery)} {x : Unit}
    (h : settleSend frame note result s = .ok (x, s')) : ∃ outcome delivery,
      result = .ok (outcome, delivery) ∧ s' = { s with
        delivery
        log := s.log ++ [.sent ⟨frame, outcome.binding, outcome.written, note⟩] } := by
  cases result with
  | error error => cases h
  | ok result =>
    cases h
    exact ⟨result.1, result.2, rfl, rfl⟩

theorem Outcome.Sound.wrote {outcome : Outcome} (h : Outcome.Sound s.delivery (outcome, delivery))
    (hwrote : s.Wrote) (frame : RunTurnFrame) (note : Note) : Loop.Wrote { s with
      delivery
      log := s.log ++ [.sent ⟨frame, outcome.binding, outcome.written, note⟩] } := by
  refine hwrote.append [.sent ⟨frame, outcome.binding, outcome.written, note⟩] rfl ?_ ?_
  . intro hopen
    exact (h hopen).1
  . intro hopen
    exact List.forall_mem_singleton.mpr (h hopen).2

theorem isQuiet_send (hnote : note.answersNothing = true) : IsQuiet (send codec frame note) := by
  refine Moves.get_bind fun s x s' hrun => ?_
  obtain ⟨outcome, delivery, hsend, rfl⟩ := settleSend_eq_ok hrun
  exact ⟨rfl, .single s.log hnote, fun h => (sound_send hsend).wrote h frame note⟩

theorem isQuiet_sendWithBinding (hnote : note.answersNothing = true) :
    IsQuiet (sendWithBinding codec frame binding note) := by
  refine Moves.get_bind fun s x s' hrun => ?_
  obtain ⟨outcome, delivery, hsend, rfl⟩ := settleSend_eq_ok hrun
  exact ⟨rfl, .single s.log hnote, fun h => (sound_sendWithBinding hsend).1.wrote h frame note⟩

theorem isQuiet_sendBound (hnote : note.answersNothing = true) :
    IsQuiet (sendBound codec frame binding note) := by
  cases binding with
  | none => exact isQuiet_send hnote
  | some binding => exact isQuiet_sendWithBinding hnote

theorem isQuiet_writeLocalError {code : String} :
    IsQuiet (writeLocalErrorForBinding codec context code message binding .plain) :=
  IsQuiet.bind isQuiet_localFrame fun _ => isQuiet_sendWithBinding rfl

theorem isQuiet_writeResyncRequired (gap : ResyncGap) : IsQuiet (writeResyncRequired codec gap) :=
  IsQuiet.bind IsQuiet.get fun _ =>
    IsQuiet.bind isQuiet_localFrame fun _ => isQuiet_send rfl

theorem isQuiet_rejectAllBrokerRequests {code : String} :
    IsQuiet (rejectAllBrokerRequests codec code message) := by
  unfold rejectAllBrokerRequests
  apply IsQuiet.bind IsQuiet.get
  intro s
  apply IsQuiet.bind (isQuiet_modifyRouter _)
  intro _
  apply IsQuiet.forM
  intro binding
  exact isQuiet_writeLocalError

theorem isQuiet_updateDurableReady : IsQuiet (updateDurableReady frame) := by
  refine IsQuiet.modify ?_ ?_ ?_
  all_goals
    intro s
    split
    . rfl
    . split <;> rfl

theorem isQuiet_augmentFrame : IsQuiet (augmentFrame options frame) :=
  IsQuiet.bind IsQuiet.get fun _ => IsQuiet.pure _

theorem isQuiet_sendAll (frames : List RunTurnFrame) :
    IsQuiet (frames.forM fun frame => send codec frame .plain) :=
  IsQuiet.forM frames fun _ => isQuiet_send rfl

theorem isQuiet_disableFlow : IsQuiet (disableFlow codec reason) := by
  unfold disableFlow
  apply IsQuiet.bind IsQuiet.get
  intro s
  apply IsQuiet.bind isQuiet_setFlow
  intro _
  apply IsQuiet.bind IsQuiet.get
  intro s
  apply IsQuiet.bind isQuiet_localFrame
  intro disabled
  apply IsQuiet.bind (isQuiet_send rfl)
  intro _
  exact isQuiet_sendAll _

theorem isQuiet_announceTerminalGap {gap : Option ResyncGap} :
    IsQuiet (announceTerminalGap codec announced gap) := by
  cases gap with
  | none => exact IsQuiet.pure _
  | some gap => exact (isQuiet_writeResyncRequired gap).onlyIf

theorem isQuiet_appendTerminal : IsQuiet appendTerminal := by
  refine IsQuiet.modify ?_ ?_ ?_
  all_goals
    intro s
    split <;> rfl

theorem isQuiet_settleSubmit (result : Except String (SubmitResult × StreamDelivery)) :
    IsQuiet (settleSubmit codec result) := by
  cases result with
  | error error => exact isQuiet_disableFlow
  | ok submitted =>
    obtain ⟨result, flow⟩ := submitted
    cases result with
    | deliver frame => exact IsQuiet.bind isQuiet_setFlow fun _ => isQuiet_send rfl
    | queued | suppressed => exact isQuiet_setFlow
    | gapStarted gap =>
      exact IsQuiet.bind isQuiet_setFlow fun _ => isQuiet_writeResyncRequired gap

theorem isQuiet_drainFlow : IsQuiet (drainFlow codec) := by
  unfold drainFlow
  apply IsQuiet.bind IsQuiet.get
  intro s
  apply IsQuiet.bind isQuiet_setFlow
  intro _
  apply IsQuiet.bind (IsQuiet.lift _)
  exact isQuiet_sendAll

theorem isQuiet_deliverTurnAccepted (frame : RunTurnFrame) (binding : Option BrokerRequestBinding) :
    IsQuiet (deliverTurnAccepted codec options frame binding) := by
  unfold deliverTurnAccepted
  apply IsQuiet.bind isQuiet_updateDurableReady
  intro _
  apply IsQuiet.bind isQuiet_augmentFrame
  intro frame
  exact isQuiet_sendBound rfl

theorem isQuiet_closeTurn : IsQuiet closeTurn := IsQuiet.modify

theorem isQuiet_closeCoreInput : IsQuiet closeCoreInput :=
  IsQuiet.modify

theorem isQuiet_noteTerminalError {error : String} : IsQuiet (noteTerminalError error) :=
  IsQuiet.modify

structure AlmostQuietly (s s' : Loop) : Prop where
  handshake : s'.handshake = s.handshake
    ∨ s.handshake.turnPending = false ∧ ∃ turn, s'.handshake = s.handshake.finishTurn turn
  silently : Silently s.log s'.log
  wrote : s.Wrote → s'.Wrote

theorem Quietly.almost (hab : Quietly a b) (hbc : AlmostQuietly b c) : AlmostQuietly a c := by
  refine ⟨?_, hab.silently.trans hbc.silently, fun h => hbc.wrote (hab.wrote h)⟩
  rw [← hab.handshake]
  exact hbc.handshake

theorem IsQuiet.almost {β : Type} {f : α → Action β} (hm : IsQuiet m)
    (hf : ∀ x, Moves AlmostQuietly (f x)) : Moves AlmostQuietly (m >>= f) := by
  intro s y s'' hrun
  change (m s >>= fun p => f p.1 p.2) = _ at hrun
  obtain ⟨p, hm', hf'⟩ := Except.bind_eq_ok.mp hrun
  exact (hm s p.1 p.2 hm').almost (hf p.1 p.2 y s'' hf')

theorem processTurnEnd_almostQuietly (frame : RunTurnFrame) :
    Moves AlmostQuietly (processTurnEnd codec frame) := by
  unfold processTurnEnd
  apply IsQuiet.get.almost
  intro s
  apply isQuiet_setFlow.almost
  intro _
  apply isQuiet_announceTerminalGap.almost
  intro _
  apply IsQuiet.get.almost
  intro s'
  apply IsQuiet.almost
  . apply isQuiet_sendBound
    rfl
  intro _
  apply isQuiet_discardBrokerBinding.almost
  intro _
  apply isQuiet_appendTerminal.almost
  intro _
  apply Moves.modify
  intro s
  refine ⟨?_, .refl s.log, fun h => h.congr rfl rfl⟩
  dsimp only
  split
  next => exact .inl rfl
  next hpending => exact .inr ⟨Bool.eq_false_iff.mpr hpending, s.active, rfl⟩

theorem processCoreFrameBody_almostQuietly (frame : RunTurnFrame) :
    Moves AlmostQuietly (processCoreFrameBody codec options frame) := by
  unfold processCoreFrameBody
  apply (isQuiet_emitProcessed frame).almost
  intro _
  apply isQuiet_updateDurableReady.almost
  intro _
  apply IsQuiet.get.almost
  intro s
  apply isQuiet_disableFlow.onlyIf.almost
  intro _
  apply isQuiet_augmentFrame.almost
  intro frame
  apply Moves.ite
  . intro _
    exact processTurnEnd_almostQuietly frame
  . intro _
    apply IsQuiet.get.almost
    intro s
    exact (isQuiet_settleSubmit _).mono fun _ _ h => ⟨.inl h.handshake, h.silently, h.wrote⟩

end Transport
