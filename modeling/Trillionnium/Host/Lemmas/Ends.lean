import Trillionnium.Host.Lemmas.Once

namespace Host

open Concurrent
open Json
open Protocol
open TurnLoop (ProviderTerminal TurnEvent)

variable {frame : RunTurnFrame} {result : Except String ProviderTerminal}

def IsEnd (scope : EventStore.TurnScope) (frame : RunTurnFrame) : Prop :=
  frame.kind = frameTurnEnd ∧ InScope frame scope

instance (scope : EventStore.TurnScope) (frame : RunTurnFrame) : Decidable (IsEnd scope frame) :=
  inferInstanceAs (Decidable (_ ∧ _))

structure Delivery where
  clean : Bool
  seen : Bool

def fits : Except String Bytes → Bool
  | .ok encoded => decide (IsDeliverable encoded)
  | .error _ => false

theorem fits_ok (h : IsDeliverable encoded) : fits (.ok encoded) = true :=
  decide_eq_true h

def delivery (P : RunTurnFrame → Prop) [DecidablePred P] : Monitor Act Act.Res Delivery where
  allows _ _ := True
  next g a r :=
    match a with
    | .encode _ => { g with clean := g.clean && fits r }
    | .write frame =>
      { clean := g.clean && r.isOk, seen := g.seen || (r.isOk && decide (P frame)) }
    | _ => g

def Act.Silent : Act → Prop
  | .encode _ | .write _ => False
  | _ => True

section Keeps

variable {P : RunTurnFrame → Prop} [DecidablePred P] {g : Delivery} {state : CoreState} {α : Type}

theorem keeps_of_silent {p : Run α} {R : α → Prop} (h : p.Only Act.Silent R) :
    (delivery P).Keeps g p (fun x g' => R x ∧ g' = g) := by
  apply Monitor.keeps_of_only (I := (· = g)) _ h rfl
  rintro _ a rfl ha
  cases a <;> first | exact ⟨trivial, fun _ => rfl⟩ | exact ha.elim

theorem keeps_delivery_deliverFrame {state : CoreState} (h : state.deliveryAttached = g.clean) :
    (delivery P).Keeps g (deliverFrame frame state) (fun state' g' =>
      state'.deliveryAttached = g'.clean
        ∧ g'.seen = (g.seen || (g'.clean && decide (P frame)))
        ∧ SameTurn state state') := by
  unfold deliverFrame
  split
  next hattached =>
    rw [hattached] at h
    rw [Monitor.keeps_bind]
    unfold writeFrame
    rw [Monitor.keeps_perform_bind]
    refine ⟨trivial, ?_⟩
    intro encoded
    cases encoded with
    | error error =>
      change false = (g.clean && false) ∧ g.seen = (g.seen || ((g.clean && false) && _)) ∧ _
      simp only [Bool.and_false, Bool.false_and, Bool.or_false]
      exact ⟨trivial, trivial, SameTurn.refl state⟩
    | ok encoded =>
      dsimp only
      split
      next hfits =>
        rw [Monitor.keeps_perform_bind]
        refine ⟨trivial, ?_⟩
        intro r
        have hclean := fits_ok hfits
        cases r with
        | error error =>
          change false = ((g.clean && fits (.ok encoded)) && false)
            ∧ (g.seen || (false && _)) = (g.seen || (((g.clean && fits (.ok encoded)) && false) && _))
            ∧ _
          simp only [Bool.and_false, Bool.false_and, Bool.or_false]
          exact ⟨trivial, trivial, SameTurn.refl state⟩
        | ok _ =>
          change state.deliveryAttached = ((g.clean && fits (.ok encoded)) && true)
            ∧ (g.seen || (true && decide (P frame)))
              = (g.seen || (((g.clean && fits (.ok encoded)) && true) && decide (P frame)))
            ∧ _
          simp only [hclean, hattached, ← h, Bool.and_true, Bool.true_and]
          exact ⟨trivial, trivial, SameTurn.refl state⟩
      next hfits =>
        have hclean : fits (.ok encoded) = false := decide_eq_false hfits
        change false = (g.clean && fits (.ok encoded))
          ∧ g.seen = (g.seen || ((g.clean && fits (.ok encoded)) && _)) ∧ _
        simp only [hclean, Bool.and_false, Bool.false_and, Bool.or_false]
        exact ⟨trivial, trivial, SameTurn.refl state⟩
  next hdetached =>
    have hfalse : g.clean = false := h.symm.trans (by simpa using hdetached)
    refine ⟨h, ?_, SameTurn.refl state⟩
    rw [hfalse, Bool.false_and, Bool.or_false]

section Turn

variable {scope : EventStore.TurnScope} {active : ActiveTurn} {ext : Externals} {frame : RunTurnFrame}

def GoesOn (scope : EventStore.TurnScope) (active : ActiveTurn) (state : CoreState) (g : Delivery) :
    Prop :=
  state.deliveryAttached = g.clean ∧ g.seen = false ∧ state.active = some active
    ∧ active.context.durableScope = scope

def HasEnded (state : CoreState) (g : Delivery) : Prop :=
  state.active = none ∧ state.deliveryAttached = g.clean ∧ g.seen = g.clean

def Served (scope : EventStore.TurnScope) (active : ActiveTurn) : Flow → Delivery → Prop
  | .inl state, g => GoesOn scope active state g ∨ HasEnded state g
  | .inr _, _ => False

abbrev Continues (scope : EventStore.TurnScope) (active : ActiveTurn) (g : Delivery)
    (p : Run CoreState) : Prop :=
  (delivery (IsEnd scope)).Keeps g p (GoesOn scope active)

theorem kind_unrecordedFrame :
    (unrecordedFrame frame persistence).kind = frame.kind
      ∧ ∀ scope, InScope (unrecordedFrame frame persistence) scope ↔ InScope frame scope := by
  unfold unrecordedFrame
  dsimp only
  split <;> exact ⟨rfl, fun _ => Iff.rfl⟩

theorem only_persistForDelivery {digest : String} :
    (persistForDelivery scope' digest frame persistence).Only Act.Silent (fun x =>
      x.1.kind = frame.kind ∧ ∀ scope, InScope x.1 scope ↔ InScope frame scope) := by
  have hunrecorded : ∀ persistence', (unrecordedFrame (decoratedFrame frame persistence) persistence').kind
      = frame.kind ∧ ∀ scope, InScope (unrecordedFrame (decoratedFrame frame persistence) persistence')
        scope ↔ InScope frame scope :=
    fun persistence' => kind_unrecordedFrame
  have happend : ((persistence.appendFrame scope' digest (decoratedFrame frame persistence)).Only
      Act.Silent (fun _ => True)) := by
    unfold Persistence.appendFrame
    split
    . split
      . trivial
      . split
        . apply Prog.only_perform_bind trivial
          intro r
          cases r <;> trivial
        . trivial
    . trivial
  unfold persistForDelivery
  apply happend.bind
  rintro ⟨recorded, persistence'⟩ _
  cases recorded with
  | true => exact ⟨rfl, fun _ => Iff.rfl⟩
  | false => exact hunrecorded persistence'

theorem only_persistBeforeEffect {digest : String} :
    (persistBeforeEffect scope' digest frame persistence).Only Act.Silent (fun x =>
      ∀ recorded, x.1 = .ok recorded → recorded.kind = frame.kind) := by
  unfold persistBeforeEffect
  split
  . intro recorded heq
    cases heq
  . apply only_persistForDelivery.bind
    rintro ⟨frame', persistence'⟩ ⟨hkind, _⟩ recorded heq
    dsimp only [admitted] at heq
    split at heq
    . cases heq
    . cases heq
      exact hkind

theorem Act.Reads.silent : ∀ a : Act, a.Reads → a.Silent := by
  intro a h
  cases a <;> trivial

theorem keeps_served (h : Continues scope active g p) :
    (delivery (IsEnd scope)).Keeps g (Sum.inl <$> p : Run Flow) (Served scope active) := by
  rw [Monitor.keeps_map]
  exact h.mono fun _ _ => .inl

theorem keeps_served_of_ended (h : (delivery (IsEnd scope)).Keeps g p HasEnded) :
    (delivery (IsEnd scope)).Keeps g (Sum.inl <$> p : Run Flow) (Served scope active) := by
  rw [Monitor.keeps_map]
  exact h.mono fun _ _ => .inr

variable (h : GoesOn scope active state g)
include h

theorem GoesOn.of_eq {state' : CoreState}
    (hattached : state'.deliveryAttached = state.deliveryAttached)
    (hactive : state'.active = state.active) : GoesOn scope active state' g :=
  ⟨hattached.trans h.1, h.2.1, hactive.trans h.2.2.1, h.2.2.2⟩

theorem keeps_goesOn_deliverFrame (hkind : frame.kind ≠ frameTurnEnd) :
    Continues scope active g (deliverFrame frame state) := by
  apply (keeps_delivery_deliverFrame h.1).mono
  rintro state' g' ⟨hattached, hended, hsame⟩
  have hnot : decide (IsEnd scope frame) = false := decide_eq_false fun hend => hkind hend.1
  rw [hnot, Bool.and_false, Bool.or_false, h.2.1] at hended
  exact ⟨hattached, hended, hsame.2.1.trans h.2.2.1, h.2.2.2⟩

theorem keeps_goesOn_deliverNew {kind : String} (hkind : kind ≠ frameTurnEnd) {payload : Document} :
    Continues scope active g (newFrame kind payload context correlation state
      >>= fun (frame, state) => deliverFrame frame state) := by
  apply (keeps_of_silent (only_newFrame trivial kind payload context correlation state)).bind
  rintro ⟨frame, state'⟩ g' ⟨⟨hframe, hattached, _, hactive, _⟩, rfl⟩
  exact keeps_goesOn_deliverFrame (h.of_eq hattached hactive) (hframe ▸ hkind)

theorem keeps_goesOn_persistAndDeliver (hkind : frame.kind ≠ frameTurnEnd) :
    Continues scope active g (persistAndDeliver active frame state) := by
  unfold persistAndDeliver
  apply (keeps_of_silent only_persistForDelivery).bind
  rintro ⟨frame', persistence⟩ g' ⟨⟨hframe, _⟩, rfl⟩
  exact keeps_goesOn_deliverFrame (h.of_eq rfl rfl) (hframe ▸ hkind)

theorem keeps_goesOn_deliverHostError {code : String} :
    Continues scope active g (deliverHostError context code message state) := by
  unfold deliverHostError
  exact keeps_goesOn_deliverNew h (by decide)

theorem keeps_goesOn_handleTurnCancel :
    Continues scope active g (handleTurnCancel frame active state) := by
  unfold handleTurnCancel
  split
  . apply keeps_goesOn_deliverHostError h
  . split
    . refine ⟨trivial, ?_⟩
      intro first
      exact keeps_goesOn_persistAndDeliver (h.of_eq rfl rfl)
        (by decide : frameTurnCancelAccepted ≠ frameTurnEnd)
    . apply keeps_goesOn_deliverHostError h

theorem keeps_goesOn_handleToolCancel :
    Continues scope active g (handleToolCancel ext frame active state) := by
  unfold handleToolCancel
  split
  . apply keeps_goesOn_deliverHostError h
  . split
    . apply keeps_goesOn_deliverHostError h
    . refine Monitor.keeps_perform_bind.mpr ⟨trivial, ?_⟩
      intro r
      split
      . exact keeps_goesOn_persistAndDeliver (h.of_eq rfl rfl)
          (by decide : frameToolCancelAccepted ≠ frameTurnEnd)
      . apply keeps_goesOn_deliverHostError h
      . apply keeps_goesOn_deliverHostError h

theorem keeps_goesOn_answerInspection {kind : String} (hkind : kind ≠ frameTurnEnd)
    {request : InspectRequest} {payload : Except (String × String) Document} :
    Continues scope active g (answerInspection ext kind request callId payload state) := by
  unfold answerInspection
  split
  . apply keeps_goesOn_deliverHostError h
  . apply (keeps_of_silent (only_inspectionFrame trivial kind callId state)).bind
    rintro ⟨response, state'⟩ g' ⟨⟨hresponse, hattached, _, hactive, _⟩, rfl⟩
    dsimp only
    unfold deliverBoundedInspection
    split
    . exact keeps_goesOn_deliverFrame (h.of_eq hattached hactive) (hresponse ▸ hkind)
    . exact keeps_goesOn_deliverHostError (h.of_eq hattached hactive)

theorem keeps_goesOn_handleTurnInspect :
    Continues scope active g (handleTurnInspect ext frame state) := by
  unfold handleTurnInspect
  split
  . apply keeps_goesOn_deliverHostError h
  . apply (keeps_of_silent (only_inspect.mono Act.Reads.silent fun _ => id)).bind
    rintro inspection g' ⟨_, rfl⟩
    exact keeps_goesOn_answerInspection h (by decide)

theorem keeps_goesOn_handleCallInspect :
    Continues scope active g (handleCallInspect ext frame state) := by
  unfold handleCallInspect
  split
  . apply keeps_goesOn_deliverHostError h
  . apply (keeps_of_silent (only_inspectCall.mono Act.Reads.silent fun _ => id)).bind
    rintro payload g' ⟨_, rfl⟩
    exact keeps_goesOn_answerInspection h (by decide)

theorem keeps_goesOn_handleActiveFrame :
    Continues scope active g (handleActiveFrame ext frame active state) := by
  unfold handleActiveFrame
  split
  . exact keeps_goesOn_handleTurnCancel h
  . split
    . exact keeps_goesOn_handleToolCancel h
    . split
      . exact keeps_goesOn_handleTurnInspect h
      . split
        . exact keeps_goesOn_handleCallInspect h
        . apply keeps_goesOn_deliverHostError h

theorem keeps_goesOn_handleTurnEvent :
    Continues scope active g (handleTurnEvent ext event receipt state) := by
  unfold handleTurnEvent
  rw [h.2.2.1]
  dsimp only
  unfold mapTurnEvent
  cases hevent : eventFrame ext event with
  | none =>
    dsimp only [Option.map_none]
    unfold acknowledgeTurnEvent
    split
    . exact ⟨trivial, fun _ => h⟩
    . exact ⟨trivial, fun _ => ⟨trivial, fun _ => h⟩⟩
  | some mapped =>
    obtain ⟨kind, payload, correlation⟩ := mapped
    have hkind := kind_eventFrame_ne hevent
    dsimp only [Option.map_some]
    unfold recordTurnEvent
    apply (keeps_of_silent only_persistBeforeEffect).bind
    rintro ⟨recorded, persistence⟩ g' ⟨hrecorded, rfl⟩
    dsimp only at hrecorded ⊢
    cases recorded with
    | error error => exact ⟨trivial, fun _ => ⟨trivial, fun _ => h.of_eq rfl h.2.2.1.symm⟩⟩
    | ok frame' =>
      refine ⟨trivial, fun _ => keeps_goesOn_deliverFrame (h.of_eq rfl h.2.2.1.symm) ?_⟩
      rw [hrecorded frame' rfl]
      exact hkind

theorem keeps_ended_finishActiveTurn (result : Except String ProviderTerminal) :
    (delivery (IsEnd scope)).Keeps g (finishActiveTurn active result { state with active := none })
      HasEnded := by
  unfold finishActiveTurn persistAndDeliver newFrame
  rw [Monitor.keeps_bind, Monitor.keeps_pure, Monitor.keeps_bind]
  have hframe : IsEnd scope (state.output.turnFrame frameTurnEnd
      (endPayload result { state with active := none }) active.context .default).1 := by
    rw [← h.2.2.2]
    exact ⟨rfl, (isTurnFrame_turnFrame _ _ _ _ _).inScope⟩
  apply (keeps_of_silent only_persistForDelivery).mono
  rintro ⟨frame', persistence⟩ g' ⟨⟨hkind, hscope⟩, rfl⟩
  have hend : decide (IsEnd scope frame') = true :=
    decide_eq_true ⟨hkind.trans hframe.1, (hscope scope).mpr hframe.2⟩
  refine (keeps_delivery_deliverFrame ?_).mono ?_
  . exact h.1
  rintro state' g' ⟨hattached, hended, hsame⟩
  rw [hend, Bool.and_true, h.2.1, Bool.false_or] at hended
  exact ⟨hsame.2.1, hattached, hended⟩

theorem keeps_handleTurnComplete_ended :
    (delivery (IsEnd scope)).Keeps g (handleTurnComplete result state) HasEnded := by
  unfold handleTurnComplete
  rw [h.2.2.1]
  dsimp only
  rw [Monitor.keeps_perform_bind]
  refine ⟨trivial, ?_⟩
  intro joined
  cases joined <;> exact keeps_ended_finishActiveTurn h _

theorem keeps_served_handleTimeout :
    (delivery (IsEnd scope)).Keeps g (Sum.inl <$> handleTimeout state : Run Flow) (Served scope active) := by
  rw [Monitor.keeps_map]
  unfold handleTimeout
  rw [h.2.2.1]
  dsimp only
  rw [Monitor.keeps_perform_bind]
  refine ⟨trivial, ?_⟩
  intro finished
  cases finished with
  | true =>
    refine ⟨trivial, ?_⟩
    intro joined
    exact (keeps_ended_finishActiveTurn h _).mono fun _ _ => .inr
  | false => exact .inl h

theorem keeps_served_handleMessage :
    (delivery (IsEnd scope)).Keeps g (handleMessage ext message state) (Served scope active) := by
  cases message with
  | inbound decoded =>
    change (delivery (IsEnd scope)).Keeps g (handleInbound ext decoded state) _
    unfold handleInbound
    cases decoded with
    | error error => exact keeps_served (keeps_goesOn_deliverHostError h)
    | ok frame =>
      dsimp only
      rw [h.2.2.1]
      exact keeps_served (keeps_goesOn_handleActiveFrame h)
  | inputEof | inputError _ => exact .inl (h.of_eq rfl rfl)
  | turnEvent event receipt => exact keeps_served (keeps_goesOn_handleTurnEvent h)
  | turnComplete result => exact keeps_served_of_ended (keeps_handleTurnComplete_ended h)

theorem keeps_served_round :
    (delivery (IsEnd scope)).Keeps g (round ext state) (Served scope active) := by
  have hlive : state.isDone = false := by
    unfold CoreState.isDone
    rw [h.2.2.1]
    rfl
  unfold round
  rw [hlive]
  refine ⟨trivial, ?_⟩
  intro received
  cases received with
  | message message => exact keeps_served_handleMessage h
  | timeout => exact keeps_served_handleTimeout h
  | disconnected =>
    change Served scope active (handleDisconnected state) g
    unfold handleDisconnected
    rw [h.2.2.1]
    exact .inl (h.of_eq rfl h.2.2.1.symm)

end Turn

end Keeps

section Accept

variable {ext : Externals} {state : CoreState} {g : Delivery}

def IsAcceptance (frame : RunTurnFrame) : Prop := frame.kind = frameTurnAccepted

instance : DecidablePred IsAcceptance := fun frame => inferInstanceAs (Decidable (frame.kind = _))

def Started : Flow → Delivery → Prop
  | .inl state, g => state.active ≠ none → state.deliveryAttached = g.seen
  | .inr _, _ => True

theorem keeps_started_of_idle {p : Run CoreState} {R : CoreState → Prop} (hidle : state.active = none)
    (h : p.Only K R) (hR : ∀ state', R state' → state'.active = state.active := by
      exact fun _ hsame => hsame.2.1) :
    (delivery IsAcceptance).Keeps g (Sum.inl <$> p : Run Flow) Started := by
  rw [Monitor.keeps_map]
  apply (Monitor.keeps_of_only (I := fun _ => True) (fun _ _ _ _ => ⟨trivial, fun _ => trivial⟩) h
    trivial).mono
  rintro state' g' ⟨hsame, _⟩ hactive
  exact absurd ((hR state' hsame).trans hidle) hactive

theorem keeps_started_acceptTurn (h : state.deliveryAttached = g.clean) (hseen : g.seen = false)
    (hidle : state.active = none) :
    (delivery IsAcceptance).Keeps g (acceptTurn context userInput state) Started := by
  unfold acceptTurn newFrame
  rw [Monitor.keeps_bind, Monitor.keeps_pure, Monitor.keeps_bind]
  apply (keeps_of_silent only_persistBeforeEffect).mono
  rintro ⟨recorded, persistence⟩ g' ⟨hrecorded, rfl⟩
  dsimp only at hrecorded ⊢
  cases recorded with
  | error error =>
    exact keeps_started_of_idle hidle only_deliverUnscopedHostErrorWithContext
  | ok frame =>
    refine (keeps_delivery_deliverFrame ?_).bind ?_
    . exact h
    rintro state' g'' ⟨hattached, hended, _⟩
    have hframe : decide (IsAcceptance frame) = true := decide_eq_true (hrecorded frame rfl)
    rw [hseen, hframe, Bool.and_true, Bool.false_or] at hended
    unfold launchTurn
    refine ⟨trivial, ?_⟩
    intro worker
    cases worker with
    | error error => trivial
    | ok worker => exact fun _ => hattached.trans hended.symm

theorem only_reconcileTurn {frames : List RunTurnFrame} {state : CoreState} :
    (reconcileTurn context frames state).Only (fun _ => True) (fun state' =>
      state'.active = state.active) := by
  unfold reconcileTurn
  apply (only_newFrame (A := fun _ => True) trivial _ _ _ _ _).bind
  rintro ⟨terminal, state₁⟩ ⟨_, _, _, hactive, _⟩
  apply (only_persistForDelivery.mono (fun _ _ => trivial) fun _ => id).bind
  rintro ⟨recorded, persistence⟩ _
  exact (only_deliverReplay _ _).mono (fun _ _ => trivial) fun _ hsame => hsame.2.1.trans hactive

section

variable (h : state.deliveryAttached = g.clean) (hseen : g.seen = false) (hidle : state.active = none)
include h hseen hidle

theorem keeps_started_resumeTurn {stored : StoredTurn} :
    (delivery IsAcceptance).Keeps g (resumeTurn context userInput state stored) Started := by
  have hrefuse : ∀ code message, (delivery IsAcceptance).Keeps g (Sum.inl <$>
      deliverUnscopedHostErrorWithContext context code message state : Run Flow) Started := by
    intro code message
    exact keeps_started_of_idle hidle only_deliverUnscopedHostErrorWithContext
  cases stored with
  | empty => exact keeps_started_acceptTurn h hseen hidle
  | complete frames =>
    exact keeps_started_of_idle hidle (only_deliverReplay _ _)
  | incomplete frames => exact keeps_started_of_idle hidle only_reconcileTurn fun _ => id
  | conflict _ | unavailable _ => apply hrefuse

theorem keeps_started_startTurn :
    (delivery IsAcceptance).Keeps g (startTurn context userInput state) Started := by
  unfold startTurn
  dsimp only
  split
  . exact keeps_started_of_idle hidle only_deliverUnscopedHostErrorWithContext
  . apply (keeps_of_silent (only_load.mono Act.Reads.silent fun _ => id)).bind
    rintro stored g' ⟨_, rfl⟩
    apply keeps_started_resumeTurn
    . exact h
    . exact hseen
    . exact hidle

theorem keeps_started_handleIdleFrame (frame : RunTurnFrame) :
    (delivery IsAcceptance).Keeps g (handleIdleFrame ext frame state) Started := by
  have herror : ∀ code message, (delivery IsAcceptance).Keeps g
      (Sum.inl <$> deliverHostError none code message state : Run Flow) Started := fun _ _ =>
    keeps_started_of_idle hidle only_deliverHostError
  unfold handleIdleFrame
  split
  . exact keeps_started_of_idle hidle only_writeHello
  . split
    . unfold handleTurnStart
      split
      . apply herror
      . exact keeps_started_startTurn h hseen hidle
    . split
      . exact keeps_started_of_idle hidle (only_handleTurnInspect _ _ _)
      . split
        . exact keeps_started_of_idle hidle (only_handleCallInspect _ _ _)
        . split <;> apply herror

theorem keeps_started_round : (delivery IsAcceptance).Keeps g (round ext state) Started := by
  unfold round
  split
  . trivial
  . refine ⟨trivial, ?_⟩
    intro received
    cases received with
    | timeout =>
      change (delivery IsAcceptance).Keeps g (Sum.inl <$> handleTimeout state : Run Flow) Started
      unfold handleTimeout
      rw [hidle]
      exact fun hactive => absurd hidle hactive
    | disconnected =>
      change Started (handleDisconnected state) g
      unfold handleDisconnected
      rw [hidle]
      trivial
    | message message =>
      cases message with
      | inbound decoded =>
        change (delivery IsAcceptance).Keeps g (handleInbound ext decoded state) Started
        unfold handleInbound
        cases decoded with
        | error error =>
          exact keeps_started_of_idle hidle only_deliverHostError
        | ok frame =>
          dsimp only
          rw [hidle]
          exact keeps_started_handleIdleFrame h hseen hidle frame
      | inputEof | inputError _ => exact fun hactive => absurd hidle hactive
      | turnEvent event receipt =>
        change (delivery IsAcceptance).Keeps g
          (Sum.inl <$> handleTurnEvent ext event receipt state : Run Flow) Started
        unfold handleTurnEvent
        rw [hidle]
        exact ⟨trivial, fun _ hactive => absurd hidle hactive⟩
      | turnComplete result =>
        change (delivery IsAcceptance).Keeps g
          (Sum.inl <$> handleTurnComplete result state : Run Flow) Started
        unfold handleTurnComplete
        rw [hidle]
        exact fun hactive => absurd hidle hactive

end

end Accept

section Serve

variable (ext : Externals)

inductive Serves (disk : Disk) (state : CoreState) :
    Prog.Trace Act Act.Res → Disk → CoreState → Prop
  | refl : Serves disk state [] disk state
  | round {disk' disk'' : Disk} {state' state'' : CoreState} {trace trace' : Prog.Trace Act Act.Res}
      (h : Serves disk state trace disk' state') (hactive : state'.active ≠ none)
      (hrun : (world ext).Interleaves disk' (round ext state') trace' disk''
        (.pure (.inl state''))) :
    Serves disk state (trace ++ trace') disk'' state''

variable {ext} {disk disk' : Disk} {state state' : CoreState} {trace : Prog.Trace Act Act.Res}
  {scope : EventStore.TurnScope} {g : Delivery} {active : ActiveTurn} {P : RunTurnFrame → Prop}
  [DecidablePred P]

theorem Serves.delivery (h : Serves ext disk state trace disk' state')
    (hstart : GoesOn scope active state g) :
    GoesOn scope active state' ((Host.delivery (IsEnd scope)).after g trace)
      ∨ HasEnded state' ((Host.delivery (IsEnd scope)).after g trace) := by
  induction h with
  | refl => exact .inl hstart
  | round _ hactive hrun ih =>
    rcases ih with hgoes | hended
    . have hserved := (keeps_served_round hgoes).runs hrun.steps
      unfold Monitor.after at hserved ⊢
      rw [List.foldl_append]
      exact hserved
    . exact absurd hended.1 hactive

theorem after_delivery_clean (h : ∀ frame r, ⟨.write frame, r⟩ ∈ trace → r = .ok ()) :
    ((delivery P).after g trace).clean = true ↔ g.clean = true
      ∧ ∀ frame r, ⟨.encode frame, r⟩ ∈ trace → fits r = true := by
  induction trace generalizing g with
  | nil => simp [Monitor.after]
  | cons event trace ih =>
    obtain ⟨a, r⟩ := event
    have hrest := @ih ((delivery P).next g a r) fun frame r' hmem =>
      h frame r' (List.mem_cons_of_mem _ hmem)
    refine hrest.trans ?_
    cases a with
    | encode frame =>
      change (g.clean && fits r) = true ∧ _ ↔ _
      rw [Bool.and_eq_true, and_assoc]
      apply and_congr_right'
      constructor
      . rintro ⟨hr, hall⟩ frame' r' hmem
        cases List.mem_cons.mp hmem with
        | inl heq =>
          cases heq
          exact hr
        | inr hmem => exact hall frame' r' hmem
      . intro hall
        exact ⟨hall frame r List.mem_cons_self, fun frame' r' hmem =>
          hall frame' r' (List.mem_cons_of_mem _ hmem)⟩
    | write frame =>
      cases h frame r List.mem_cons_self
      change (g.clean && true) = true ∧ _ ↔ _
      simp
    | _ =>
      change g.clean = true ∧ _ ↔ _
      simp

theorem after_delivery_seen :
    ((delivery P).after g trace).seen = true ↔ g.seen = true
      ∨ ∃ frame, ⟨.write frame, .ok ()⟩ ∈ trace ∧ P frame := by
  induction trace generalizing g with
  | nil => simp [Monitor.after]
  | cons event trace ih =>
    obtain ⟨a, r⟩ := event
    refine (@ih ((delivery P).next g a r)).trans ?_
    cases a with
    | write frame =>
      cases r with
      | error error =>
        change (g.seen || (false && decide (P frame))) = true ∨ _ ↔ _
        simp
      | ok _ =>
        change (g.seen || (true && decide (P frame))) = true ∨ _ ↔ _
        rw [Bool.true_and, Bool.or_eq_true, decide_eq_true_eq, or_assoc]
        apply or_congr_right
        constructor
        . rintro (hend | ⟨frame', hmem, hend⟩)
          . exact ⟨frame, List.mem_cons_self, hend⟩
          . exact ⟨frame', List.mem_cons_of_mem _ hmem, hend⟩
        . rintro ⟨frame', hmem, hend⟩
          cases List.mem_cons.mp hmem with
          | inl heq =>
            cases heq
            exact .inl hend
          | inr hmem => exact .inr ⟨frame', hmem, hend⟩
    | _ =>
      change g.seen = true ∨ _ ↔ _
      simp

theorem GoesOn.over (h : GoesOn scope active state g)
    (hrun : (world ext).Interleaves disk (Host.round ext state)
      (⟨.receive, .message (.turnComplete result)⟩ :: served) disk' (.pure flow)) :
    ∃ state', flow = .inl state' ∧ state'.active = none := by
  have hover : (Host.delivery (IsEnd scope)).Keeps g
      (handleReceived ext (.message (.turnComplete result)) state)
      (fun flow _ => ∃ state', flow = .inl state' ∧ state'.active = none) := by
    change Monitor.Keeps _ _ (Sum.inl <$> handleTurnComplete result state : Run Flow) _
    rw [Monitor.keeps_map]
    exact (keeps_handleTurnComplete_ended h).mono fun state' _ hended =>
      ⟨state', rfl, hended.1⟩
  unfold Host.round at hrun
  split at hrun
  . cases hrun with
    | other hrely => exact hrely.elim
  . rcases World.Interleaves.perform_bind (fun _ _ => id) hrun with
      ⟨hnil, _⟩ | ⟨r, disk₁, rest, htrace, _, hserve⟩
    . cases hnil
    . cases htrace
      exact hover.runs hserve.steps

theorem accepted_turn_ends {disk disk₀ disk₁ : Disk} {state state₀ state₁ : CoreState}
    {accept trace : Prog.Trace Act Act.Res} {active : ActiveTurn} {frame : RunTurnFrame}
    (haccept : (world ext).Interleaves disk (round ext state) accept disk₀ (.pure (.inl state₀)))
    (hidle : state.active = none) (hactive : state₀.active = some active)
    (hdelivered : ⟨.write frame, .ok ()⟩ ∈ accept) (hkind : frame.kind = frameTurnAccepted)
    (hserves : Serves ext disk₀ state₀ trace disk₁ state₁)
    (hwrites : ∀ frame r, ⟨.write frame, r⟩ ∈ trace → r = .ok ()) :
    (state₁.active = none →
      ((∃ frame, ⟨.write frame, .ok ()⟩ ∈ trace ∧ IsEnd active.context.durableScope frame)
        ↔ ∀ frame r, ⟨.encode frame, r⟩ ∈ trace → fits r = true))
      ∧ (state₁.active ≠ none → ∀ result served disk₂ flow,
        (world ext).Interleaves disk₁ (round ext state₁)
          (⟨.receive, .message (.turnComplete result)⟩ :: served) disk₂ (.pure flow) →
        ∃ state₂, flow = .inl state₂ ∧ state₂.active = none) := by
  have hstarted := (keeps_started_round (g := ⟨state.deliveryAttached, false⟩) rfl rfl hidle).runs
    haccept.steps
  have hseen := (after_delivery_seen (P := IsAcceptance)
    (g := ⟨state.deliveryAttached, false⟩)).mpr (.inr ⟨frame, hdelivered, hkind⟩)
  have hattached : state₀.deliveryAttached = true := by
    rw [← hseen]
    apply hstarted
    rw [hactive]
    exact Option.some_ne_none active
  have hgoes : GoesOn active.context.durableScope active state₀ ⟨true, false⟩ :=
    ⟨hattached, rfl, hactive, rfl⟩
  have hserved := hserves.delivery hgoes
  constructor
  . intro hnone
    rcases hserved with hgoing | hended
    . rw [hgoing.2.2.1] at hnone
      cases hnone
    . have hclean := after_delivery_clean (P := IsEnd active.context.durableScope)
        (g := ⟨true, false⟩) hwrites
      have hend : ((delivery (IsEnd active.context.durableScope)).after ⟨true, false⟩ trace).seen = true
          ↔ _ := after_delivery_seen
      rw [hended.2.2] at hend
      simp only [Bool.false_eq_true, false_or] at hend
      simp only [true_and] at hclean
      exact hend.symm.trans hclean
  . intro hne result served disk₂ flow hrun
    rcases hserved with hgoing | hended
    . exact hgoing.over hrun
    . exact absurd hended.1 hne

end Serve

theorem le_length_encode (codec : FloatCodec) {x : Document} (hx : frame.payload.get? name = some x) :
    (write codec x.value).length ≤ (frame.encode codec).length := by
  have hpayload := length_write_of_get? codec hx
  have hmem : ("payload", frame.payload.value)
      ∈ frame.members.map fun member => (member.1, member.2.value) := by
    apply List.mem_map.mpr
    refine ⟨("payload", frame.payload), List.mem_append_left _ (Document.mem_present.mpr ?_), rfl⟩
    simp [RunTurnFrame.slots]
  have hsum := List.single_le_sum (fun _ _ => Nat.zero_le _) _
    (List.mem_map_of_mem (f := memberLength codec) hmem)
  have hobject := (length_write_object_le codec
    (frame.members.map fun member => (member.1, member.2.value))).1
  have hmember : (write codec frame.payload.value).length
      ≤ memberLength codec ("payload", frame.payload.value) := by
    unfold memberLength
    dsimp only
    omega
  unfold RunTurnFrame.encode
  omega

section Sample

variable (ext : Externals)

def endFrame (active : ActiveTurn) (result : Except String ProviderTerminal) (state : CoreState) :
    RunTurnFrame × OutputState :=
  state.output.turnFrame frameTurnEnd (endPayload result state) active.context .default

def sampleEnd (result : Except String ProviderTerminal) : RunTurnFrame :=
  decoratedFrame (endFrame (sampleTurn ext) result (sampleActive ext)).1 (.opened false)

def sampleEndRecord (result : Except String ProviderTerminal) : EventStore.EventInput :=
  frameInput (sampleContext ext).durableScope (sampleContext ext).requestSha256
    (OutputState.eventId (sampleContext ext).turnStreamId 1) (sampleEnd ext result)

theorem find?_sampleEndRecord (result : Except String ProviderTerminal) :
    EventStore.EventLog.find? (sampleDisk ext).log (sampleEndRecord ext result) = none := by
  unfold EventStore.EventLog.find?
  rw [List.find?_eq_none]
  intro event hmem heq
  cases List.mem_singleton.mp hmem
  have hid := (of_decide_eq_true heq).2
  exact absurd (eventId_injective hid) (by decide)

variable {ext} in
theorem advance_sampleEnd_of_not_fits
    (hfits : ¬ IsDeliverable ((sampleEnd ext result).encode ext.float)) : ∃ disk,
    advance ext (.message (.turnComplete result)) (sampleDisk ext) (sampleActive ext)
      = some ⟨CoreState.detach { sampleState with
          output := (endFrame (sampleTurn ext) result (sampleActive ext)).2 }
          "response frame is empty or exceeds the configured bound",
        [⟨.joinWorker 1, .ok ()⟩, ⟨.append (sampleEndRecord ext result) true, .ok ()⟩,
          ⟨.encode (sampleEnd ext result), .ok ((sampleEnd ext result).encode ext.float)⟩],
        disk⟩ := by
  have hframe : IsTurnFrame (sampleEnd ext result) (sampleContext ext).durableScope :=
    (isTurnFrame_turnFrame _ _ _ _ _).decoratedFrame _
  have happend := append_stored_of_fresh { sampleDisk ext with inbound := none }
    (find?_sampleEndRecord ext result) true
  apply Exists.intro
  apply advance_of_drive rfl
  change Option.map _ (World.drive (serve ext) (((Persistence.appendFrame
    (sampleContext ext).durableScope _ (sampleEnd ext result) (.opened false) >>= _) >>= _) >>= _)
    { sampleDisk ext with inbound := none }) = _
  rw [appendFrame_eq rfl hframe rfl]
  change Option.map _ (Option.bind (some (Disk.append { sampleDisk ext with inbound := none }
    (sampleEndRecord ext result) true .stored)) _) = _
  rw [happend]
  change Option.map _ (Option.map _ (World.drive (serve ext)
    (deliverFrame (sampleEnd ext result) _ >>= _) _)) = _
  rw [World.drive_bind (drive_deliverFrame_of_not_fits rfl hfits)]
  rfl

def longText : String := String.ofList (List.replicate (2 ^ 20) 'a')

theorem utf8_longText : utf8 longText = List.replicate (2 ^ 20) 97 := by
  have hencode : String.utf8EncodeChar 'a' = [97] := by decide
  unfold longText
  rw [utf8_ofList, List.flatMap_replicate, hencode]
  exact List.flatten_replicate_singleton

def longTerminal : ProviderTerminal := ⟨.completed, some longText, none⟩

theorem validateTerminal_longTerminal : TurnLoop.validateTerminal longTerminal = .ok () := by
  have hoversized : TurnLoop.isOversized longText = false := by
    unfold TurnLoop.isOversized
    rw [utf8_longText, List.length_replicate, Bool.or_eq_false_iff]
    constructor
    . exact decide_eq_false (by decide)
    . rw [Bool.eq_false_iff]
      intro hzero
      have heq := List.eq_of_mem_replicate (List.contains_iff_mem.mp hzero)
      exact absurd heq (by decide)
  unfold TurnLoop.validateTerminal
  change TurnLoop.reject ([longText].any TurnLoop.isOversized) _ = _
  simp [hoversized, TurnLoop.reject]

theorem not_isDeliverable_sampleEnd {terminal : ProviderTerminal}
    (hsummary : terminal.summary = some text) (hlong : 2 ^ 20 ≤ (utf8 text).length) :
    ¬ IsDeliverable ((sampleEnd ext (.ok terminal)).encode ext.float) := by
  have hobject : (endPayload (.ok terminal) (sampleActive ext)).isObject = true :=
    Document.isObject_object _
  have hinsert := (Document.isObject_insert (endPayload (.ok terminal) (sampleActive ext))
    "turn_request_sha256" (.ofString (sampleTurn ext).context.requestSha256)).trans hobject
  have hend : (endPayload (.ok terminal) (sampleActive ext)).get? "summary"
      = some (.ofString text) := by
    unfold endPayload
    rw [Document.get?_object]
    change some (Document.ofOption .ofString terminal.summary) = _
    rw [hsummary]
    rfl
  have hpayload : (sampleEnd ext (.ok terminal)).payload.get? "summary" = some (.ofString text) := by
    unfold sampleEnd
    simp only [decoratedFrame, endFrame, OutputState.turnFrame]
    rw [get?_decorateLogStatus_of_ne hinsert _ (by decide : "summary" ∉ _),
      Document.get?_insert hobject, if_neg (by decide)]
    exact hend
  have hlength := le_length_encode ext.float hpayload
  have htext := (length_writeString text).1
  change (write ext.float (.string text)).length ≤ _ at hlength
  rw [write_string] at hlength
  have hlimit : limits.maxFrameBytes = 2 ^ 20 := rfl
  intro hfits
  have hbound := hfits.2
  omega

def shortTerminal : ProviderTerminal := ⟨.completed, some "done", none⟩

def delivers (kind : String) (trace : Prog.Trace Act Act.Res) : Bool :=
  trace.any fun
    | ⟨.write frame, .ok ()⟩ => frame.kind == kind
    | _ => false

theorem exists_of_delivers (h : delivers kind trace) :
    ∃ frame, ⟨.write frame, .ok ()⟩ ∈ trace ∧ frame.kind = kind := by
  obtain ⟨entry, hmem, h⟩ := List.any_eq_true.mp h
  split at h
  next frame => exact ⟨frame, hmem, eq_of_beq h⟩
  next => cases h

def isClean (trace : Prog.Trace Act Act.Res) : Bool :=
  trace.all fun
    | ⟨.write _, .error _⟩ => false
    | ⟨.encode _, r⟩ => fits r
    | _ => true

theorem of_isClean (h : isClean trace) :
    (∀ frame r, ⟨.write frame, r⟩ ∈ trace → r = .ok ())
      ∧ ∀ frame r, ⟨.encode frame, r⟩ ∈ trace → fits r = true := by
  have hall := List.all_eq_true.mp h
  constructor
  . intro frame r hmem
    cases r with
    | ok => rfl
    | error error => exact absurd (hall _ hmem) Bool.false_ne_true
  . intro frame r hmem
    exact hall _ hmem

theorem advance_sampleEnd :
    ∃ r₁ ∈ advance .reference (.message (.inbound (.ok sampleStart))) .empty sampleState,
    delivers frameTurnAccepted r₁.served ∧ r₁.state.active = some (sampleTurn .reference)
      ∧ ∃ r₂ ∈ advance .reference (.message (.turnComplete (.ok shortTerminal))) r₁.disk r₁.state,
        isClean r₂.served ∧ r₂.state.active = none := by
  decide +kernel

end Sample

theorem accepted_turn_ends_sample : ∃ trace : Prog.Trace Act Act.Res, ∃ frame,
    ⟨.write frame, .ok ()⟩ ∈ trace ∧ IsEnd (sampleContext .reference).durableScope frame := by
  obtain ⟨r₁, hr₁, hdelivers, hactive, r₂, hr₂, hclean, hnone⟩ := advance_sampleEnd
  obtain ⟨frame, hwrite, hkind⟩ := exists_of_delivers hdelivers
  have hserves := Serves.round .refl (by rw [hactive]; exact Option.some_ne_none _)
    (run_of_working (run_round hr₂))
  obtain ⟨hwrites, hfits⟩ := @of_isClean (⟨.receive, _⟩ :: r₂.served) hclean
  have hresult := (accepted_turn_ends (run_of_working (run_round hr₁)) rfl hactive
    (List.mem_cons_of_mem _ hwrite) hkind hserves hwrites).1 hnone
  exact ⟨_, hresult.mpr hfits⟩

theorem accepted_turn_without_end : ∃ disk₀ state₀ accept frame served disk₁ state₁,
    (workingWorld .reference).Interleaves .empty (round .reference sampleState) accept disk₀
        (.pure (.inl state₀))
      ∧ ⟨.write frame, .ok ()⟩ ∈ accept ∧ frame.kind = frameTurnAccepted
      ∧ TurnLoop.validateTerminal longTerminal = .ok ()
      ∧ (workingWorld .reference).Interleaves disk₀ (round .reference state₀)
        (⟨.receive, .message (.turnComplete (.ok longTerminal))⟩ :: served) disk₁ (.pure (.inl state₁))
      ∧ state₁.active = none ∧ state₁.deliveryAttached = false ∧ written served = [] := by
  have hfits := not_isDeliverable_sampleEnd .reference (rfl : longTerminal.summary = some longText)
    (by rw [utf8_longText, List.length_replicate])
  obtain ⟨r₁, hr₁, hdelivers, _⟩ := advance_sampleEnd
  obtain ⟨frame, hwrite, hkind⟩ := exists_of_delivers hdelivers
  obtain ⟨served, hstart⟩ := advance_sampleStart acceptFits_reference
  cases hr₁.symm.trans hstart
  obtain ⟨disk, hend⟩ := advance_sampleEnd_of_not_fits hfits
  exact ⟨_, _, _, frame, _, _, _, run_round hstart, List.mem_cons_of_mem _ hwrite, hkind,
    validateTerminal_longTerminal, run_round hend, rfl, rfl, rfl⟩

end Host
