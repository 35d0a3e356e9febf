import Trillionnium.Host.Impl.World
import Trillionnium.Host.Lemmas.Quiet

/-!
What the core writes into its turn journal, and when it starts a worker. The records of a turn have the
digest of one request, the end of a turn is its last record, and a worker is started only for a turn of
which the journal had nothing before its acceptance.
-/

namespace Host

open Concurrent
open EventStore (EventInput)
open Json
open Protocol Monitor
open TurnLoop (TurnRequest)

variable {frame : RunTurnFrame}

inductive Phase where
  | idle
  | looked (scope : EventStore.TurnScope) (records : List EventInput)
  | recorded (scope : EventStore.TurnScope) (digest : String)
  | live (scope : EventStore.TurnScope) (digest : String)
  | ending (scope : EventStore.TurnScope) (digest : String)

structure Watch where
  inbound : Option RunTurnFrame
  phase : Phase

def MayAppend (scope : EventStore.TurnScope) (records : List EventInput) (input : EventInput)
    (durable : Bool) : Prop :=
  ∃ digest, Stored scope digest input
    ∧ ((records = [] ∧ input.kind = frameTurnAccepted ∧ durable = true)
      ∨ (records ≠ [] ∧ input.kind = frameTurnEnd ∧ ∀ event ∈ records,
        StoredTurn.storedRequest event = some digest ∧ event.kind ≠ frameTurnEnd))

variable (ext : Externals)

def Asks (inbound : Option RunTurnFrame) (scope : EventStore.TurnScope) (digest : String)
    (worker : TurnRequest) : Prop :=
  ∃ frame request, inbound = some frame ∧ frame.turnRequest limits = .ok request
    ∧ (turnContext ext request).durableScope = scope ∧ requestSha256 ext request = digest
    ∧ worker = loopRequest (turnContext ext request) request.userInput

def Allows (g : Watch) : Act → Prop
  | .append input durable =>
    match g.phase with
    | .looked scope records => MayAppend scope records input durable
    | .live scope digest => Stored scope digest input ∧ input.kind ≠ frameTurnEnd
    | .ending scope digest => Stored scope digest input ∧ input.kind = frameTurnEnd
    | _ => False
  | .spawnWorker request =>
    match g.phase with
    | .recorded scope digest => Asks ext g.inbound scope digest request
    | _ => False
  | _ => True

def Phase.afterReceive : Phase → Phase
  | .live scope digest => .live scope digest
  | _ => .idle

def Phase.afterReplay (phase : Phase) (scope : EventStore.TurnScope) :
    Except String (List EventInput) → Phase
  | .ok records =>
    match phase with
    | .idle | .looked _ _ => .looked scope records
    | phase => phase
  | .error _ => phase

def Phase.afterAppend (phase : Phase) (input : EventInput) : Except String Unit → Phase
  | .ok () =>
    match phase with
    | .looked scope _ =>
      if input.kind = frameTurnAccepted then
        .recorded scope ((StoredTurn.storedRequest input).getD "")
      else
        .idle
    | .ending _ _ => .idle
    | phase => phase
  | .error _ =>
    match phase with
    | .looked _ _ | .ending _ _ => .idle
    | phase => phase

def Phase.afterSpawn (phase : Phase) : Except String Nat → Phase
  | .ok _ =>
    match phase with
    | .recorded scope digest => .live scope digest
    | phase => phase
  | .error _ => .idle

def Phase.afterJoin : Phase → Phase
  | .live scope digest => .ending scope digest
  | phase => phase

def Received.frame? : Received → Option RunTurnFrame
  | .message (.inbound (.ok frame)) => some frame
  | _ => none

def journal : Monitor Act Act.Res Watch where
  allows := Allows ext
  next g a r :=
    match a with
    | .receive => ⟨Received.frame? r, g.phase.afterReceive⟩
    | .replay scope => { g with phase := g.phase.afterReplay scope r }
    | .append input _ => { g with phase := g.phase.afterAppend input r }
    | .spawnWorker _ => { g with phase := g.phase.afterSpawn r }
    | .joinWorker _ => { g with phase := g.phase.afterJoin }
    | _ => g

theorem phase_replay (g : Watch) (scope : EventStore.TurnScope)
    (r : Except String (List EventInput)) :
    ((journal ext).next g (.replay scope) r).phase = g.phase.afterReplay scope r := rfl

theorem phase_append (g : Watch) (input : EventInput) (durable : Bool) (r : Except String Unit) :
    ((journal ext).next g (.append input durable) r).phase = g.phase.afterAppend input r := rfl

structure Agrees (g : Watch) (state : CoreState) : Prop where
  configured : state.persistence.configured = true
  active : ∀ active, state.active = some active →
    g.phase = .live active.context.durableScope active.context.requestSha256
      ∧ active.durableScope = active.context.durableScope
      ∧ active.requestDigest = active.context.requestSha256
  inactive : state.active = none → ∀ scope digest, g.phase ≠ .live scope digest

theorem Agrees.sameJournal {g : Watch} {state : CoreState} (h : Agrees g state)
    (hsame : SameJournal state state') : Agrees g state' where
  configured := by
    rw [hsame.1]
    exact h.configured
  active := by
    intro active
    rw [hsame.2.1]
    exact h.active active
  inactive := by
    rw [hsame.2.1]
    exact h.inactive

section Keeps

variable {ext} {g : Watch} {state : CoreState} {α : Type}

theorem keeps_of_speaks {p : Run α} {P : α → Prop} (h : p.Only Act.Speaks P) :
    (journal ext).Keeps g p (fun x g' => P x ∧ g' = g) := by
  apply keeps_of_only (I := (· = g)) _ h rfl
  rintro _ a rfl ha
  cases a <;> first | exact ⟨trivial, fun _ => rfl⟩ | exact ha.elim

theorem keeps_of_looks {p : Run CoreState} (hagrees : Agrees g state)
    (h : p.Only Act.Looks (SameJournal state)) :
    (journal ext).Keeps g p (flip Agrees) := by
  apply (keeps_of_only (I := fun g' => Agrees g' state) _ h hagrees).mono
  . intro state' g' hx
    exact hx.2.sameJournal hx.1
  . intro g' a hg ha
    cases a with
    | replay scope =>
      refine ⟨trivial, ?_⟩
      intro r
      refine ⟨hg.configured, ?_, ?_⟩
      . intro active hactive
        obtain ⟨hphase, hrest⟩ := hg.active active hactive
        refine ⟨?_, hrest⟩
        change g'.phase.afterReplay scope r = _
        rw [hphase]
        cases r <;> rfl
      . intro hnone scope' digest heq
        have hne := hg.inactive hnone
        change g'.phase.afterReplay scope r = _ at heq
        cases r with
        | error error => exact hne scope' digest heq
        | ok records =>
          cases hphase : g'.phase with
          | live scope digest => exact hne scope digest hphase
          | _ =>
            rw [hphase] at heq
            cases heq
    | controlSeq | encode _ | write _ | snapshot _ | historyFrom _ _ => exact ⟨trivial, fun _ => hg⟩
    | _ => exact ha.elim

theorem keeps_agrees_of_speaks {p : Run CoreState} (hagrees : Agrees g state)
    (h : p.Only Act.Speaks (SameJournal state)) :
    (journal ext).Keeps g p (flip Agrees) :=
  keeps_of_looks hagrees (h.mono Act.Speaks.looks fun _ => id)

theorem Agrees.persist {persistence : Persistence} (h : Agrees g state)
    (hconfigured : persistence.configured = true) :
    Agrees g { state with persistence := persistence } where
  configured := hconfigured
  active := h.active
  inactive := h.inactive

theorem Agrees.output (h : Agrees g state) (output : OutputState) :
    Agrees g { state with output := output } where
  configured := h.configured
  active := h.active
  inactive := h.inactive

theorem keeps_deliverFrame (hagrees : Agrees g state) (frame : RunTurnFrame) :
    (journal ext).Keeps g (deliverFrame frame state) (flip Agrees) :=
  keeps_agrees_of_speaks hagrees
    (only_deliverFrame.mono (fun _ => id) fun _ => SameTurn.sameJournal)

theorem agrees_of_inactive (hconfigured : state.persistence.configured = true)
    (hactive : state.active = none) (hphase : ∀ scope digest, g.phase ≠ .live scope digest) :
    Agrees g state where
  configured := hconfigured
  active := by
    intro active h
    rw [hactive] at h
    cases h
  inactive := fun _ => hphase

section Active

variable {active : ActiveTurn} {frame : RunTurnFrame}

section

variable (hagrees : Agrees g state) (hactive : state.active = some active)
include hagrees hactive

variable (ext) in
theorem allows_live
    (hframe : IsTurnFrame frame active.context.durableScope) (hkind : frame.kind ≠ frameTurnEnd)
    {eventId : String} (heventId : frame.eventId = some eventId) (durable : Bool) :
    (journal ext).allows g
        (.append (frameInput active.durableScope active.requestDigest eventId frame) durable)
      ∧ ∀ r, (journal ext).next g
        (.append (frameInput active.durableScope active.requestDigest eventId frame) durable) r = g := by
  obtain ⟨hphase, hscope, hdigest⟩ := hagrees.active active hactive
  constructor
  . change Allows ext g (.append _ _)
    simp only [Allows, hphase, hscope, hdigest]
    exact ⟨⟨frame, isRecord_frameInput hframe heventId⟩, hkind⟩
  . intro r
    change { g with phase := g.phase.afterAppend _ r } = g
    obtain ⟨inbound, phase⟩ := g
    cases hphase
    cases r <;> rfl

theorem keeps_persistAndDeliver
    (hframe : IsTurnFrame frame active.context.durableScope) (hkind : frame.kind ≠ frameTurnEnd) :
    (journal ext).Keeps g (persistAndDeliver active frame state) (flip Agrees) := by
  have hscope := (hagrees.active active hactive).2.1
  unfold persistAndDeliver
  rw [keeps_bind]
  apply keeps_persistForDelivery (hscope ▸ hframe)
  . intro _
    exact keeps_deliverFrame (hagrees.persist hagrees.configured) _
  . intro _ eventId heventId
    obtain ⟨hallows, hnext⟩ := allows_live ext hagrees hactive
      (hframe.decoratedFrame state.persistence) hkind heventId (isAuthorityFrame frame.kind)
    refine ⟨hallows, ?_, ?_⟩
    . rw [hnext]
      exact keeps_deliverFrame (hagrees.persist hagrees.configured) _
    . intro error
      rw [hnext]
      exact keeps_deliverFrame (hagrees.persist rfl) _

theorem keeps_newFrame_persistAndDeliver {kind : String} {payload : Document}
    (hkind : kind ≠ frameTurnEnd) :
    (journal ext).Keeps g
      (newFrame kind payload (some active.context) correlation state >>= fun (frame, state) =>
        persistAndDeliver active frame state) (flip Agrees) :=
  keeps_persistAndDeliver (hagrees.output _) hactive (isTurnFrame_turnFrame _ _ _ _ _) hkind

theorem keeps_handleTurnCancel :
    (journal ext).Keeps g (handleTurnCancel frame active state) (flip Agrees) := by
  unfold handleTurnCancel
  split
  . exact keeps_agrees_of_speaks hagrees only_deliverHostError
  . split
    . rw [keeps_perform_bind]
      refine ⟨trivial, ?_⟩
      intro first
      exact keeps_newFrame_persistAndDeliver hagrees hactive (by decide)
    . exact keeps_agrees_of_speaks hagrees only_deliverHostError

theorem keeps_handleToolCancel :
    (journal ext).Keeps g (handleToolCancel ext frame active state) (flip Agrees) := by
  have herror : ∀ code message, (journal ext).Keeps g
      (deliverHostError (some active.context) code message state) (flip Agrees) :=
    fun code message => keeps_agrees_of_speaks hagrees only_deliverHostError
  unfold handleToolCancel
  split
  . apply herror
  . split
    . apply herror
    . rw [keeps_perform_bind]
      refine ⟨trivial, ?_⟩
      intro r
      split
      . exact keeps_newFrame_persistAndDeliver hagrees hactive (by decide)
      . apply herror
      . apply herror

theorem keeps_handleActiveFrame :
    (journal ext).Keeps g (handleActiveFrame ext frame active state) (flip Agrees) := by
  unfold handleActiveFrame
  split
  . exact keeps_handleTurnCancel hagrees hactive
  . split
    . exact keeps_handleToolCancel hagrees hactive
    . split
      . exact keeps_of_looks hagrees (only_handleTurnInspect ext frame state)
      . split
        . exact keeps_of_looks hagrees (only_handleCallInspect ext frame state)
        . exact keeps_agrees_of_speaks hagrees only_deliverHostError

end

end Active

section Events

open TurnLoop (ProviderTerminal TurnEvent)

variable {active : ActiveTurn}

theorem kind_runtimeFrame_ne {seq : Nat} : (runtimeFrame seq runtime).1 ≠ frameTurnEnd := by
  unfold runtimeFrame
  cases runtime.kind with
  | accepted => exact (by decide : frameToolAccepted ≠ frameTurnEnd)
  | started pid => exact (by decide : frameToolStarted ≠ frameTurnEnd)
  | output stream bytes =>
    have hstream : ∀ stream, streamFrame stream ≠ frameTurnEnd := by
      intro stream
      cases stream <;> decide
    exact hstream stream
  | terminal terminal => exact (by decide : frameToolResult ≠ frameTurnEnd)

theorem kind_providerFrame_ne {seq : Nat} : (providerFrame seq provider).1 ≠ frameTurnEnd := by
  cases provider with
  | status text detail => exact (by decide : frameProviderStatus ≠ frameTurnEnd)
  | modelDelta text => exact (by decide : frameModelDelta ≠ frameTurnEnd)
  | modelMessage text => exact (by decide : frameModelMessage ≠ frameTurnEnd)
  | opaqueEvent kind payload => exact (by decide : frameProviderOpaque ≠ frameTurnEnd)

theorem kind_eventFrame_ne {kind : String} {payload : Document}
    (h : eventFrame ext event = some (kind, payload, correlation)) :
    kind ≠ frameTurnEnd := by
  unfold eventFrame at h
  split at h
  . cases h
  . cases h
  next provider _ =>
    cases h
    apply kind_providerFrame_ne
  next runtime _ =>
    cases h
    apply kind_runtimeFrame_ne
  . cases h
    decide
  . cases h
    decide

variable (ext) in
theorem keeps_recordTurnEvent (hagrees : Agrees g state) (hactive : state.active = some active)
    (hframe : IsTurnFrame frame active.context.durableScope) (hkind : frame.kind ≠ frameTurnEnd)
    (receipt : Nat) :
    (journal ext).Keeps g (recordTurnEvent active frame receipt state) (flip Agrees) := by
  have hscope := (hagrees.active active hactive).2.1
  unfold recordTurnEvent
  rw [keeps_bind]
  apply keeps_persistBeforeEffect hagrees.configured (hscope ▸ hframe)
  . intro error _
    exact ⟨trivial, fun _ => ⟨trivial, fun _ => hagrees.persist hagrees.configured⟩⟩
  . intro _ eventId heventId
    obtain ⟨hallows, hnext⟩ := allows_live ext hagrees hactive
      (hframe.decoratedFrame state.persistence) hkind heventId (isAuthorityFrame frame.kind)
    refine ⟨hallows, ?_, ?_⟩
    . rw [hnext]
      exact ⟨trivial, fun _ => keeps_deliverFrame (hagrees.persist hagrees.configured) _⟩
    . intro error
      rw [hnext]
      exact ⟨trivial, fun _ => ⟨trivial, fun _ => hagrees.persist rfl⟩⟩

theorem keeps_handleTurnEvent (hagrees : Agrees g state) :
    (journal ext).Keeps g (handleTurnEvent ext event receipt state) (flip Agrees) := by
  unfold handleTurnEvent
  split
  . exact ⟨trivial, fun _ => hagrees⟩
  next active hactive =>
    unfold mapTurnEvent
    cases hevent : eventFrame ext event with
    | none =>
      dsimp only [Option.map_none]
      unfold acknowledgeTurnEvent
      split
      . exact ⟨trivial, fun _ => hagrees⟩
      . exact ⟨trivial, fun _ => ⟨trivial, fun _ => hagrees⟩⟩
    | some mapped =>
      obtain ⟨kind, payload, correlation⟩ := mapped
      have hrecord := keeps_recordTurnEvent ext
        (hagrees.output (state.output.turnFrame kind payload active.context correlation).2) hactive
        (isTurnFrame_turnFrame state.output kind payload active.context correlation)
        (kind_eventFrame_ne hevent) receipt
      exact hrecord

theorem keeps_finishActiveTurn {state : CoreState} (hconfigured : state.persistence.configured = true)
    (hinactive : state.active = none)
    (hphase : g.phase = .ending active.context.durableScope active.context.requestSha256)
    (hscope : active.durableScope = active.context.durableScope)
    (hdigest : active.requestDigest = active.context.requestSha256)
    (result : Except String ProviderTerminal) :
    (journal ext).Keeps g (finishActiveTurn active result state) (flip Agrees) := by
  unfold finishActiveTurn persistAndDeliver
  rw [keeps_bind]
  change (journal ext).Keeps g (persistForDelivery _ _ _ _ >>= _) _
  rw [keeps_bind]
  have hframe := isTurnFrame_turnFrame state.output frameTurnEnd (endPayload result state)
    active.context .default
  apply keeps_persistForDelivery (hscope ▸ hframe)
  . intro _
    apply keeps_deliverFrame
    refine agrees_of_inactive hconfigured hinactive ?_
    simp [hphase]
  . intro _ eventId heventId
    have hnext : ∀ input durable r scope digest,
        ((journal ext).next g (.append input durable) r).phase ≠ .live scope digest := by
      intro input durable r scope digest
      rw [phase_append, hphase]
      cases r with
      | ok _ | error _ => exact Phase.noConfusion
    refine ⟨?_, ?_, ?_⟩
    . change Allows ext g (.append _ _)
      simp only [Allows, hphase, hscope, hdigest]
      exact ⟨⟨_, isRecord_frameInput (hframe.decoratedFrame _) heventId⟩, rfl⟩
    . apply keeps_deliverFrame
      exact agrees_of_inactive hconfigured hinactive (hnext _ _ _)
    . intro error
      apply keeps_deliverFrame
      exact agrees_of_inactive rfl hinactive (hnext _ _ _)

variable (ext) in
theorem keeps_joinWorker (hagrees : Agrees g state) (hactive : state.active = some active)
    (result : Except Unit Unit → Except String ProviderTerminal) :
    (journal ext).Keeps g
      (perform (.joinWorker active.worker) >>= fun joined =>
        finishActiveTurn active (result joined) { state with active := none }) (flip Agrees) := by
  obtain ⟨hphase, hscope, hdigest⟩ := hagrees.active active hactive
  rw [keeps_perform_bind]
  refine ⟨trivial, ?_⟩
  intro joined
  refine keeps_finishActiveTurn ?_ ?_ ?_ hscope hdigest _
  . exact hagrees.configured
  . rfl
  . change g.phase.afterJoin = _
    rw [hphase]
    rfl

def joinResult (result : Except String ProviderTerminal) :
    Except Unit Unit → Except String ProviderTerminal
  | .ok () => result
  | .error () => .error "active turn worker panicked"

theorem keeps_handleTurnComplete (hagrees : Agrees g state) (result : Except String ProviderTerminal) :
    (journal ext).Keeps g (handleTurnComplete result state) (flip Agrees) := by
  unfold handleTurnComplete
  split
  . exact hagrees
  next active hactive =>
    have hjoin := keeps_joinWorker ext hagrees hactive (joinResult result)
    rw [keeps_perform_bind] at hjoin ⊢
    refine ⟨hjoin.1, ?_⟩
    intro joined
    have hjoined := hjoin.2 joined
    cases joined <;> exact hjoined

theorem keeps_handleTimeout (hagrees : Agrees g state) :
    (journal ext).Keeps g (handleTimeout state) (flip Agrees) := by
  unfold handleTimeout
  split
  . exact hagrees
  next active hactive =>
    rw [keeps_perform_bind]
    refine ⟨trivial, ?_⟩
    intro finished
    cases finished with
    | true => exact keeps_joinWorker ext hagrees hactive fun joined => .error (joinError joined)
    | false => exact hagrees

end Events

section Start

def FlowAgrees (flow : Flow) (g : Watch) : Prop := ∀ state, flow = .inl state → Agrees g state

theorem keeps_inl (h : (journal ext).Keeps g p (flip Agrees)) :
    (journal ext).Keeps g (.inl <$> p) FlowAgrees := by
  rw [keeps_map]
  apply h.mono
  intro state g hagrees _ heq
  cases heq
  exact hagrees

variable {context : TurnContext}

theorem keeps_deliverReplay (hagrees : Agrees g state) :
    (journal ext).Keeps g (deliverReplay frames state) (flip Agrees) :=
  keeps_agrees_of_speaks hagrees
    ((only_deliverReplay frames state).mono (fun _ => id) fun _ => SameTurn.sameJournal)

theorem keeps_refused (hagrees : Agrees g state) :
    (journal ext).Keeps g (.inl <$> deliverUnscopedHostErrorWithContext context code error state)
      FlowAgrees :=
  keeps_inl (keeps_agrees_of_speaks hagrees only_deliverUnscopedHostErrorWithContext)

theorem keeps_reconcileTurn {frames : List RunTurnFrame} {records : List EventInput}
    (hconfigured : state.persistence.configured = true) (hactive : state.active = none)
    (hphase : g.phase = .looked context.durableScope records)
    (hstored : StoredTurn.classify context.durableScope context.requestSha256 records
      = .incomplete frames) :
    (journal ext).Keeps g (reconcileTurn context frames state) (flip Agrees) := by
  have hframe := isTurnFrame_turnFrame (state.output.observeReplay frames) frameTurnEnd
    (reconciliationPayload state.persistence) context .default
  unfold reconcileTurn
  rw [keeps_bind]
  change (journal ext).Keeps g (persistForDelivery _ _ _ _ >>= _) _
  rw [keeps_bind]
  apply keeps_persistForDelivery hframe
  . intro _
    apply keeps_deliverReplay
    exact agrees_of_inactive hconfigured hactive (by simp [hphase])
  . intro _ eventId heventId
    have hnext : ∀ (input : EventInput) (durable : Bool) (r : Except String Unit),
        input.kind = frameTurnEnd → ∀ scope digest,
        ((journal ext).next g (.append input durable) r).phase ≠ .live scope digest := by
      intro input durable r hkind scope digest
      rw [phase_append, hphase]
      cases r with
      | error error => exact Phase.noConfusion
      | ok _ =>
        simp only [Phase.afterAppend]
        rw [if_neg (by rw [hkind]; decide)]
        exact Phase.noConfusion
    obtain ⟨hne, hopen⟩ := open_of_classify hstored
    refine ⟨?_, ?_, ?_⟩
    . change Allows ext g (.append _ _)
      simp only [Allows, hphase]
      exact ⟨_, ⟨_, isRecord_frameInput (hframe.decoratedFrame _) heventId⟩, .inr ⟨hne, rfl, hopen⟩⟩
    . apply keeps_deliverReplay
      exact agrees_of_inactive hconfigured hactive (hnext _ _ _ rfl)
    . intro error
      apply keeps_deliverReplay
      exact agrees_of_inactive rfl hactive (hnext _ _ _ rfl)

theorem keeps_launchTurn (hconfigured : state.persistence.configured = true)
    (hphase : g.phase = .recorded context.durableScope context.requestSha256)
    (hasks : Asks ext g.inbound context.durableScope context.requestSha256
      (loopRequest context userInput)) :
    (journal ext).Keeps g (launchTurn context userInput state) FlowAgrees := by
  unfold launchTurn
  rw [keeps_perform_bind]
  constructor
  . change Allows ext g (.spawnWorker _)
    simp only [Allows, hphase]
    exact hasks
  . intro r
    cases r with
    | error error =>
      intro state' heq
      cases heq
    | ok worker =>
      intro state' heq
      cases heq
      refine ⟨hconfigured, ?_, ?_⟩
      . intro active hactive
        cases hactive
        refine ⟨?_, rfl, rfl⟩
        change g.phase.afterSpawn (.ok worker) = _
        rw [hphase]
        rfl
      . intro hnone
        cases hnone

theorem keeps_acceptTurn (hconfigured : state.persistence.configured = true)
    (hactive : state.active = none) (hphase : g.phase = .looked context.durableScope [])
    (hasks : Asks ext g.inbound context.durableScope context.requestSha256
      (loopRequest context userInput)) :
    (journal ext).Keeps g (acceptTurn context userInput state) FlowAgrees := by
  have hframe := isTurnFrame_turnFrame state.output frameTurnAccepted
    (acceptedPayload context.requestSha256 state.persistence) context .default
  unfold acceptTurn
  rw [keeps_bind]
  change (journal ext).Keeps g (persistBeforeEffect _ _ _ _ >>= _) _
  rw [keeps_bind]
  apply keeps_persistBeforeEffect hconfigured hframe
  . intro error _
    apply keeps_refused
    exact agrees_of_inactive hconfigured hactive (by simp [hphase])
  . intro _ eventId heventId
    refine ⟨?_, ?_, ?_⟩
    . change Allows ext g (.append _ _)
      simp only [Allows, hphase]
      exact ⟨_, ⟨_, isRecord_frameInput (hframe.decoratedFrame _) heventId⟩, .inl ⟨rfl, rfl, rfl⟩⟩
    . dsimp only
      apply (keeps_of_speaks only_deliverFrame).bind
      rintro state' _ ⟨hsame, rfl⟩
      apply keeps_launchTurn
      . rw [hsame.1]
        exact hconfigured
      . rw [phase_append, hphase]
        simp only [Phase.afterAppend, storedRequest_frameInput, Option.getD_some]
        exact if_pos rfl
      . exact hasks
    . intro error
      apply keeps_refused
      refine agrees_of_inactive rfl hactive ?_
      intro scope digest
      rw [phase_append, hphase]
      exact Phase.noConfusion

theorem keeps_startTurn (hconfigured : state.persistence.configured = true)
    (hactive : state.active = none) (hphase : g.phase = .idle)
    (hasks : Asks ext g.inbound context.durableScope context.requestSha256
      (loopRequest context userInput)) :
    (journal ext).Keeps g (startTurn context userInput state) FlowAgrees := by
  have hidle : ∀ scope digest, g.phase ≠ .live scope digest := by
    simp [hphase]
  unfold startTurn
  dsimp only
  split
  next error _ => exact keeps_refused (agrees_of_inactive hconfigured hactive hidle)
  next hadmitted =>
    have hdurable := isDurable_of_admitted hconfigured hadmitted
    rw [Persistence.isDurable, Bool.and_eq_true] at hdurable
    rw [keeps_bind]
    unfold Persistence.load
    rw [Option.isNone_iff_eq_none.mp hdurable.2]
    dsimp only
    rw [if_pos hdurable.1, keeps_perform_bind]
    refine ⟨trivial, ?_⟩
    intro r
    cases r with
    | error error => exact keeps_refused (agrees_of_inactive hconfigured hactive hidle)
    | ok records =>
      have hlooked : ((journal ext).next g (.replay context.durableScope) (.ok records)).phase
          = .looked context.durableScope records := by
        rw [phase_replay, hphase]
        rfl
      have hnext : ∀ scope digest, ((journal ext).next g (.replay context.durableScope)
          (.ok records)).phase ≠ .live scope digest := by
        simp [hlooked]
      dsimp only
      rw [keeps_pure]
      cases hstored : StoredTurn.classify context.durableScope context.requestSha256 records with
      | complete frames =>
        apply keeps_inl
        exact keeps_deliverReplay (agrees_of_inactive hconfigured hactive hnext)
      | incomplete frames =>
        apply keeps_inl
        exact keeps_reconcileTurn hconfigured hactive hlooked hstored
      | conflict _ | unavailable _ =>
        exact keeps_refused (agrees_of_inactive hconfigured hactive hnext)
      | empty =>
        cases eq_nil_of_classify hstored
        exact keeps_acceptTurn hconfigured hactive hlooked hasks

end Start

section Loop

section

variable (hagrees : Agrees g state)
include hagrees

theorem keeps_handleTurnStart (hactive : state.active = none) (hphase : g.phase = .idle)
    (hinbound : g.inbound = some frame) :
    (journal ext).Keeps g (handleTurnStart ext frame state) FlowAgrees := by
  unfold handleTurnStart
  split
  . exact keeps_inl (keeps_agrees_of_speaks hagrees only_deliverHostError)
  next request hrequest =>
    apply keeps_startTurn hagrees.configured hactive hphase
    exact ⟨frame, request, hinbound, hrequest, rfl, rfl, rfl⟩

theorem keeps_handleIdleFrame (hactive : state.active = none) (hphase : g.phase = .idle)
    (hinbound : g.inbound = some frame) :
    (journal ext).Keeps g (handleIdleFrame ext frame state) FlowAgrees := by
  have herror : ∀ code message, (journal ext).Keeps g
      (.inl <$> deliverHostError none code message state) FlowAgrees :=
    fun code message => keeps_inl (keeps_agrees_of_speaks hagrees only_deliverHostError)
  unfold handleIdleFrame
  split
  . exact keeps_inl (keeps_agrees_of_speaks hagrees only_writeHello)
  . split
    . exact keeps_handleTurnStart hagrees hactive hphase hinbound
    . split
      . exact keeps_inl (keeps_of_looks hagrees (only_handleTurnInspect ext frame state))
      . split
        . exact keeps_inl (keeps_of_looks hagrees (only_handleCallInspect ext frame state))
        . split
          . apply herror
          . apply herror

theorem keeps_handleMessage (hphase : state.active = none → g.phase = .idle)
    (hinbound : g.inbound = Received.frame? (.message message)) :
    (journal ext).Keeps g (handleMessage ext message state) FlowAgrees := by
  unfold handleMessage
  cases message with
  | inbound decoded =>
    dsimp only
    unfold handleInbound
    cases decoded with
    | error error =>
      exact keeps_inl (keeps_agrees_of_speaks hagrees only_deliverHostError)
    | ok frame =>
      dsimp only
      split
      next active hactive => exact keeps_inl (keeps_handleActiveFrame hagrees hactive)
      next hactive => exact keeps_handleIdleFrame hagrees hactive (hphase hactive) hinbound
  | inputEof | inputError _ =>
    intro state' heq
    cases heq
    exact ⟨hagrees.configured, hagrees.active, hagrees.inactive⟩
  | turnEvent event receipt => exact keeps_inl (keeps_handleTurnEvent hagrees)
  | turnComplete result => exact keeps_inl (keeps_handleTurnComplete hagrees result)

theorem Agrees.receive (received : Received) :
    Agrees ⟨Received.frame? received, g.phase.afterReceive⟩ state
      ∧ (state.active = none → g.phase.afterReceive = .idle) := by
  have hidle : state.active = none → g.phase.afterReceive = .idle := by
    intro hnone
    have hne := hagrees.inactive hnone
    cases hphase : g.phase with
    | live scope digest => exact absurd hphase (hne scope digest)
    | _ => rfl
  refine ⟨⟨hagrees.configured, ?_, ?_⟩, hidle⟩
  . intro active hactive
    obtain ⟨hphase, hrest⟩ := hagrees.active active hactive
    refine ⟨?_, hrest⟩
    rw [hphase]
    rfl
  . intro hnone scope digest heq
    dsimp only at heq
    rw [hidle hnone] at heq
    cases heq

theorem keeps_round : (journal ext).Keeps g (round ext state) FlowAgrees := by
  unfold round
  split
  . intro state' heq
    cases heq
  . rw [keeps_perform_bind]
    refine ⟨trivial, ?_⟩
    intro received
    obtain ⟨hreceived, hidle⟩ := hagrees.receive received
    unfold handleReceived
    cases received with
    | message message => exact keeps_handleMessage hreceived hidle rfl
    | timeout => exact keeps_inl (keeps_handleTimeout hreceived)
    | disconnected =>
      intro state' heq
      unfold handleDisconnected at heq
      split at heq
      . cases heq
      . cases heq
        exact ⟨hreceived.configured, hreceived.active, hreceived.inactive⟩

end

end Loop

end Keeps

end Host
