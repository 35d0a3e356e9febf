import Trillionnium.Host.Impl.Core
import Trillionnium.Host.Lemmas.Stored

namespace Host

open Concurrent
open EventStore (EventInput)
open Json
open Protocol Persistence

variable {state : CoreState} {persistence : Persistence}

def Act.Speaks : Act → Prop
  | .controlSeq | .encode _ | .write _ => True
  | _ => False

def Act.Looks : Act → Prop
  | .controlSeq | .encode _ | .write _ | .replay _ | .snapshot _ | .historyFrom _ _ => True
  | _ => False

def Act.Reads : Act → Prop
  | .replay _ | .snapshot _ | .historyFrom _ _ => True
  | _ => False

theorem Act.Reads.looks : ∀ a : Act, a.Reads → a.Looks := by
  intro a h
  cases a <;> trivial

theorem Act.Speaks.looks : ∀ a : Act, a.Speaks → a.Looks := by
  intro a h
  cases a <;> trivial

def SameTurn (state state' : CoreState) : Prop :=
  state'.persistence = state.persistence ∧ state'.active = state.active
    ∧ state'.output = state.output ∧ state'.inputOpen = state.inputOpen

theorem SameTurn.refl (state : CoreState) : SameTurn state state := ⟨rfl, rfl, rfl, rfl⟩

theorem SameTurn.trans (h : SameTurn a b) (h' : SameTurn b c) : SameTurn a c :=
  ⟨h'.1.trans h.1, h'.2.1.trans h.2.1, h'.2.2.1.trans h.2.2.1, h'.2.2.2.trans h.2.2.2⟩

def SameJournal (state state' : CoreState) : Prop :=
  state'.persistence = state.persistence ∧ state'.active = state.active
    ∧ state'.inputOpen = state.inputOpen

theorem SameTurn.sameJournal (h : SameTurn a b) : SameJournal a b :=
  ⟨h.1, h.2.1, h.2.2.2⟩

theorem SameJournal.trans (h : SameJournal a b) (h' : SameJournal b c) :
    SameJournal a c :=
  ⟨h'.1.trans h.1, h'.2.1.trans h.2.1, h'.2.2.trans h.2.2⟩

section Deliver

theorem only_writeFrame (frame : RunTurnFrame) :
    (writeFrame frame).Only Act.Speaks (fun _ => True) := by
  unfold writeFrame
  apply Prog.only_perform_bind trivial
  intro r
  cases r with
  | error error => trivial
  | ok encoded =>
    dsimp only
    split
    . exact Prog.only_perform_bind trivial fun _ => trivial
    . trivial

theorem only_deliverFrame {frame : RunTurnFrame} :
    (deliverFrame frame state).Only Act.Speaks (SameTurn state) := by
  unfold deliverFrame
  split
  . apply (only_writeFrame frame).bind
    intro r _
    cases r with
    | error _ | ok _ => exact SameTurn.refl state
  . exact SameTurn.refl state

theorem only_deliverReplay (frames : List RunTurnFrame) (state : CoreState) :
    (deliverReplay frames state).Only Act.Speaks (SameTurn state) := by
  induction frames generalizing state with
  | nil => exact SameTurn.refl state
  | cons frame frames ih =>
    unfold deliverReplay
    apply only_deliverFrame.bind
    intro state' h
    exact (ih state').mono (fun _ => id) (fun _ => h.trans)

theorem only_newFrame {A : Act → Prop} (hA : A .controlSeq) (kind : String) (payload : Document)
    (context : Option TurnContext) (correlation : EventCorrelation) (state : CoreState) :
    (newFrame kind payload context correlation state).Only A (fun x => x.1.kind = kind
      ∧ x.2.deliveryAttached = state.deliveryAttached ∧ SameJournal state x.2) := by
  unfold newFrame
  split
  . exact ⟨rfl, rfl, rfl, rfl, rfl⟩
  . exact Prog.only_perform_bind hA fun _ => ⟨rfl, rfl, rfl, rfl, rfl⟩

theorem only_deliverNew {kind : String} {payload : Document} :
    (newFrame kind payload context correlation state >>= fun (frame, state) =>
      deliverFrame frame state).Only Act.Speaks (SameJournal state) := by
  apply (only_newFrame (A := Act.Speaks) trivial kind payload context correlation state).bind
  rintro ⟨frame, state'⟩ ⟨_, _, h⟩
  exact only_deliverFrame.mono (fun _ => id) (fun _ h' => h.trans h'.sameJournal)

theorem only_deliverHostError {code : String} :
    (deliverHostError context code message state).Only Act.Speaks (SameJournal state) :=
  only_deliverNew

theorem only_deliverUnscopedHostErrorWithContext {code : String} :
    (deliverUnscopedHostErrorWithContext context code message state).Only Act.Speaks
      (SameJournal state) :=
  only_deliverNew

theorem only_writeHello : (writeHello state).Only Act.Speaks (SameJournal state) :=
  only_deliverNew

end Deliver

section Persist

variable {γ : Type} {monitor : Monitor Act Act.Res γ} {g : γ} {scope : EventStore.TurnScope}
  {digest : String} {frame : RunTurnFrame} {persistence : Persistence}

theorem isDurable_of_admitted (hconfigured : persistence.configured = true)
    (h : persistence.effectAdmissionError = none) : persistence.isDurable = true := by
  unfold effectAdmissionError at h
  split at h
  next hdurable =>
    rw [hconfigured] at hdurable
    simpa using hdurable
  . cases h

theorem effectAdmissionError_of_isDurable (h : persistence.isDurable = true) :
    persistence.effectAdmissionError = none := by
  unfold effectAdmissionError
  rw [h]
  rfl

theorem effectAdmissionError_disable (error : String) :
    (persistence.disable error).effectAdmissionError = some error := by
  simp [effectAdmissionError, disable, isDurable]

theorem keeps_persistForDelivery {Q : RunTurnFrame × Persistence → γ → Prop}
    (hframe : IsTurnFrame frame scope)
    (hskip : persistence.isDurable = false
      → Q (unrecordedFrame (decoratedFrame frame persistence) persistence, persistence) g)
    (hact : persistence.isDurable = true → ∀ eventId, frame.eventId = some eventId →
      let a := Act.append (frameInput scope digest eventId (decoratedFrame frame persistence))
        (isAuthorityFrame frame.kind)
      monitor.allows g a
        ∧ Q (decoratedFrame frame persistence, persistence) (monitor.next g a (.ok ()))
        ∧ ∀ error, Q (unrecordedFrame (decoratedFrame frame persistence) (persistence.disable error),
          persistence.disable error) (monitor.next g a (.error error))) :
    monitor.Keeps g (persistForDelivery scope digest frame persistence) Q := by
  unfold persistForDelivery
  rw [Monitor.keeps_bind]
  unfold appendFrame
  split
  next hdurable =>
    have hdecorated := hframe.decoratedFrame persistence
    obtain ⟨eventId, heventId⟩ := Option.isSome_iff_exists.mp hdecorated.eventId
    rw [heventId]
    dsimp only
    rw [if_pos hdecorated.inScope, Monitor.keeps_perform_bind]
    obtain ⟨hallows, hok, herror⟩ := hact hdurable eventId heventId
    refine ⟨hallows, ?_⟩
    intro r
    cases r with
    | ok _ => exact hok
    | error error => exact herror error
  next hdurable => exact hskip (by simpa using hdurable)

theorem keeps_persistBeforeEffect {Q : Except String RunTurnFrame × Persistence → γ → Prop}
    (hconfigured : persistence.configured = true) (hframe : IsTurnFrame frame scope)
    (hskip : ∀ error, persistence.effectAdmissionError = some error
      → Q (.error error, persistence) g)
    (hact : persistence.isDurable = true → ∀ eventId, frame.eventId = some eventId →
      let a := Act.append (frameInput scope digest eventId (decoratedFrame frame persistence))
        (isAuthorityFrame frame.kind)
      monitor.allows g a
        ∧ Q (.ok (decoratedFrame frame persistence), persistence) (monitor.next g a (.ok ()))
        ∧ ∀ error, Q (.error error, persistence.disable error)
          (monitor.next g a (.error error))) :
    monitor.Keeps g (persistBeforeEffect scope digest frame persistence) Q := by
  unfold persistBeforeEffect
  split
  next error herror => exact hskip error herror
  next hadmitted =>
    have hdurable := isDurable_of_admitted hconfigured hadmitted
    rw [Monitor.keeps_bind]
    apply keeps_persistForDelivery hframe
    . intro hfalse
      rw [hdurable] at hfalse
      cases hfalse
    . intro _ eventId heventId
      obtain ⟨hallows, hok, herror⟩ := hact hdurable eventId heventId
      refine ⟨hallows, ?_, ?_⟩
      . simp only [Monitor.keeps_pure, admitted, hadmitted]
        exact hok
      . intro error
        simp only [Monitor.keeps_pure, admitted, effectAdmissionError_disable]
        exact herror error

end Persist

section Inspect

variable (ext : Externals)

def StoredTurn.ofReplay (scope : EventStore.TurnScope) (digest : String) :
    Except String (List EventInput) → StoredTurn
  | .error error => .conflict error
  | .ok records => .classify scope digest records

theorem load_eq (h : persistence.isDurable = true) (scope : EventStore.TurnScope) (digest : String) :
    persistence.load scope digest
      = (perform (.replay scope) >>= fun r => pure (StoredTurn.ofReplay scope digest r)) := by
  unfold isDurable at h
  rw [Bool.and_eq_true, Option.isNone_iff_eq_none] at h
  unfold load
  rw [h.1, h.2]
  dsimp only
  rw [if_pos rfl]
  congr 1
  funext r
  cases r <;> rfl

theorem only_load {scope : EventStore.TurnScope} {requestSha256 : String} :
    (persistence.load scope requestSha256).Only Act.Reads (fun _ => True) := by
  unfold load
  split
  . trivial
  . split
    . apply Prog.only_perform_bind trivial
      intro r
      cases r <;> trivial
    . split <;> trivial

theorem only_inspect {scope : EventStore.TurnScope} {requestSha256 : String} :
    (persistence.inspect scope requestSha256 inclusiveCursor limit).Only Act.Reads
      (fun _ => True) := by
  unfold inspect
  split
  . trivial
  . split
    . trivial
    . apply only_load.bind
      intro stored _
      cases stored <;> trivial

theorem only_inspectionFrame {A : Act → Prop} (hA : A .controlSeq) (kind : String)
    {payload : Document} (callId : Option String) (state : CoreState) :
    (inspectionFrame kind payload context callId state).Only A (fun x => x.1.kind = kind
      ∧ x.2.deliveryAttached = state.deliveryAttached ∧ SameJournal state x.2) := by
  unfold inspectionFrame
  exact (only_newFrame hA _ _ _ _ state).bind fun _ h => h

theorem only_answerInspection (kind : String) (request : InspectRequest) (callId : Option String)
    (payload : Except (String × String) Document) (state : CoreState) :
    (answerInspection ext kind request callId payload state).Only Act.Speaks
      (SameJournal state) := by
  unfold answerInspection
  split
  . apply only_deliverHostError
  . apply (only_inspectionFrame (A := Act.Speaks) trivial _ _ state).bind
    rintro ⟨frame, state'⟩ ⟨_, _, h⟩
    dsimp only
    unfold deliverBoundedInspection
    split
    . exact only_deliverFrame.mono (fun _ => id) fun _ h' => h.trans h'.sameJournal
    . exact only_deliverHostError.mono (fun _ => id) fun _ => h.trans

theorem only_handleTurnInspect (frame : RunTurnFrame) (state : CoreState) :
    (handleTurnInspect ext frame state).Only Act.Looks (SameJournal state) := by
  unfold handleTurnInspect
  split
  . exact only_deliverHostError.mono Act.Speaks.looks fun _ => id
  . apply (only_inspect.mono Act.Reads.looks fun _ => id).bind
    intro inspection _
    exact (only_answerInspection ext _ _ _ _ _).mono Act.Speaks.looks fun _ => id

theorem only_inspectCall {request : InspectRequest} :
    (inspectCall request callId state).Only Act.Reads (fun _ => True) := by
  unfold inspectCall
  have hlive : (liveSnapshot ⟨request.context.registryScope, callId⟩ state.active).Only Act.Reads
      (fun _ => True) := by
    unfold liveSnapshot
    split
    . exact Prog.only_perform trivial fun _ => trivial
    . trivial
  apply hlive.bind
  intro r _
  split
  . apply Prog.only_perform_bind trivial
    intro history
    cases history <;> trivial
  . unfold durableCallInspection
    exact only_inspect.bind fun _ _ => trivial
  . trivial

theorem only_handleCallInspect (frame : RunTurnFrame) (state : CoreState) :
    (handleCallInspect ext frame state).Only Act.Looks (SameJournal state) := by
  unfold handleCallInspect
  split
  . exact only_deliverHostError.mono Act.Speaks.looks fun _ => id
  . apply (only_inspectCall.mono Act.Reads.looks fun _ => id).bind
    intro payload _
    exact (only_answerInspection ext _ _ _ _ _).mono Act.Speaks.looks fun _ => id

end Inspect

end Host
