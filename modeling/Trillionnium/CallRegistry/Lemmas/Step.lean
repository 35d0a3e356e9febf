import Trillionnium.CallRegistry.Impl.Step
import Trillionnium.Data.Except

namespace CallRegistry

open Except

inductive Entry.Change (maxHistory : Nat) (entry : Entry) : Entry → Prop where
  | same : Entry.Change maxHistory entry entry
  | inhibit (h : entry.dispatch = .accepted false) :
    Entry.Change maxHistory entry
      ({ entry with dispatch := .accepted true }.pushEvent .spawnInhibited maxHistory)
  | pid {generation pid : Nat} (h : entry.dispatch = .started generation none) :
    Entry.Change maxHistory entry
      ({ entry with dispatch := .started generation (some pid) }.pushEvent
        (.pidObserved generation pid) maxHistory)
  | cancel (h : entry.cancellation = false) :
    Entry.Change maxHistory entry
      ({ entry with cancellation := true }.pushEvent .cancelRequested maxHistory)
  | signal : Entry.Change maxHistory entry { entry with cancellation := true }
  | lose (h : entry.connectionLost = false) :
    Entry.Change maxHistory entry
      ({ entry with connectionLost := true, dispatch := entry.dispatch.inhibit }.pushEvent
        .connectionLost maxHistory)
  | attach (h : entry.connectionLost = true) :
    Entry.Change maxHistory entry
      ({ entry with connectionLost := false }.pushEvent .connectionAttached maxHistory)
  | complete {generation : Nat} {pid : Option Nat} {terminal : TerminalRecord}
      (h : entry.dispatch = .started generation pid) :
    Entry.Change maxHistory entry
      ({ entry with dispatch := .terminal generation terminal }.pushEvent
        (.terminalRecorded generation terminal) maxHistory)

def Removes (key : CallKey) (op : Op) (out : Answer) : Prop :=
  ((∃ request, op = .rollbackAccept key request) ∨ op = .removeTerminal key) ∧ out = .removed (.ok true)

def Grants (key : CallKey) (generation : Nat) (op : Op) (out : Answer) : Prop :=
  (∃ requestSha256, op = .claimSpawn key requestSha256)
    ∧ ∃ snapshot, out = .claimed (.ok (.granted generation snapshot))

def Quiet (out : Answer) : Prop :=
  (∀ generation snapshot, out ≠ .claimed (.ok (.granted generation snapshot)))
    ∧ out ≠ .removed (.ok true)

theorem Quiet.not_grants (h : Quiet out) (key : CallKey) (generation : Nat) (op : Op) :
    ¬ Grants key generation op out := by
  rintro ⟨_, snapshot, hout⟩
  exact h.1 generation snapshot hout

namespace Registry

open Machine

inductive Transition (registry : Registry) (op : Op) (out : Answer) : Registry → Prop where
  | same (hquiet : Quiet out := by simp [Quiet]) : Transition registry op out registry
  | changed {key : CallKey} {entry entry' : Entry} (hget : registry.get? key = some entry)
      (h : entry.Change registry.limits.maxHistoryPerCall entry')
      (hquiet : Quiet out := by simp [Quiet]) :
    Transition registry op out (registry.insert key entry')
  | created {key : CallKey} {request : CallRequest} (hop : op = .begin key request)
      (hget : registry.get? key = none)
      (hroom : registry.entryCount < registry.limits.maxEntries)
      (hquiet : Quiet out := by simp [Quiet]) :
    Transition registry op out
      ({ registry with entryCount := registry.entryCount + 1 }.insert key
        (registry.freshEntry key request))
  | removed {key : CallKey} {entry : Entry} (hremove : Removes key op out)
      (hget : registry.get? key = some entry) (h : entry.isUntouched ∨ entry.isTerminal) :
    Transition registry op out (registry.remove key)
  | granted {key : CallKey} {entry : Entry}
      (hgrant : Grants key registry.nextSpawnGeneration op out)
      (hget : registry.get? key = some entry)
      (haccepted : entry.dispatch = .accepted false) (hcancel : entry.cancellation = false) :
    Transition registry op out
      ({ registry with nextSpawnGeneration := registry.nextSpawnGeneration + 1 }.insert key
        ({ entry with dispatch := .started registry.nextSpawnGeneration none }.pushEvent
          (.spawnClaimed registry.nextSpawnGeneration) registry.limits.maxHistoryPerCall))

theorem get?_insert_self (registry : Registry) (key : CallKey) (entry : Entry) :
    (registry.insert key entry).get? key = some entry := by
  unfold get? insert
  rw [Sharded.get?_insert_self]

variable {key : CallKey} {registry registry' : Registry}

theorem mutate_eq_ok {snapshot : CallSnapshot}
    (h : registry.mutate key change = .ok (snapshot, registry')) :
    ∃ entry, registry.get? key = some entry ∧ snapshot = (change entry).snapshot
      ∧ registry' = registry.insert key (change entry) := by
  unfold mutate at h
  split at h
  . cases h
  next entry hget =>
    cases h
    exact ⟨entry, hget, rfl, rfl⟩

theorem transition_settle {α : Type} {op : Op} {answer : Result α → Answer}
    {result : Result (α × Registry)} (hok : ∀ x registry', result = .ok (x, registry')
      → registry.Transition op (answer (.ok x)) registry')
    (herror : ∀ e, Quiet (answer (.error e)) := by simp [Quiet]) :
    registry.Transition op (settle registry answer result).2 (settle registry answer result).1 := by
  apply settle_rule (P := registry.Transition op) _ hok
  exact fun e => .same (herror e)

theorem transition_mutate {registry : Registry} {key : CallKey} (change : Entry → Entry)
    (h : ∀ entry : Entry, entry.Change registry.limits.maxHistoryPerCall (change entry)) :
    registry.Transition op (settle registry Answer.observed (registry.mutate key change)).2
      (settle registry Answer.observed (registry.mutate key change)).1 := by
  refine transition_settle ?_ (by simp [Quiet])
  intro snapshot registry' hmutate
  obtain ⟨entry, hget, _, rfl⟩ := mutate_eq_ok hmutate
  exact .changed hget (h entry) (by simp [Quiet])

abbrev Steps (registry : Registry) (op : Op) : Prop :=
  registry.Transition op (registry.step op).2 (registry.step op).1

variable (registry key)

theorem step_inhibitSpawn : registry.Steps (.inhibitSpawn key) := by
  apply transition_mutate
  intro entry
  split
  next h => exact .inhibit h
  . exact .same

theorem step_requestCancel : registry.Steps (.requestCancel key) := by
  apply transition_mutate
  intro entry
  split
  . exact .same
  next h => exact .cancel (by simpa using h)

theorem step_markConnectionLost : registry.Steps (.markConnectionLost key) := by
  apply transition_mutate
  intro entry
  split
  . exact .same
  next h => exact .lose (by simpa using h)

theorem step_markConnectionAttached : registry.Steps (.markConnectionAttached key) := by
  apply transition_mutate
  intro entry
  split
  next h => exact .attach h
  . exact .same

theorem begin_eq_ok {registry : Registry} {key : CallKey} {request : CallRequest}
    {result : BeginResult} (h : registry.begin key request = .ok (result, registry')) :
    (∃ entry, registry.get? key = some entry ∧ result = ⟨.existing, entry.snapshot⟩
      ∧ registry' = registry)
    ∨ (registry.get? key = none ∧ registry.entryCount < registry.limits.maxEntries
      ∧ result = ⟨.new, (registry.freshEntry key request).snapshot⟩
      ∧ registry' = { registry with entryCount := registry.entryCount + 1 }.insert key
          (registry.freshEntry key request)) := by
  unfold begin at h
  obtain ⟨_, _, h⟩ := bind_eq_ok.mp h
  obtain ⟨_, _, h⟩ := bind_eq_ok.mp h
  split at h
  next entry hget =>
    split at h
    . cases h
    . cases h
      exact .inl ⟨entry, hget, rfl, rfl⟩
  next hget =>
    obtain ⟨reserved, hreserve, h⟩ := bind_eq_ok.mp h
    unfold reserveEntry at hreserve
    split at hreserve
    . cases hreserve
    next hroom =>
      cases hreserve
      cases h
      exact .inr ⟨hget, by omega, rfl, rfl⟩

theorem step_begin (request : CallRequest) : registry.Steps (.begin key request) := by
  refine transition_settle ?_ (by simp [Quiet])
  intro result registry' hbegin
  obtain ⟨_, _, _, rfl⟩ | ⟨hget, hroom, _, rfl⟩ := begin_eq_ok hbegin
  . exact .same (by simp [Quiet])
  . exact .created rfl hget hroom (by simp [Quiet])

theorem rollbackAccept_eq_ok {registry : Registry} {key : CallKey} {request : CallRequest}
    {removed : Bool} (h : registry.rollbackAccept key request = .ok (removed, registry')) :
    (removed = false ∧ registry' = registry)
      ∨ (removed = true ∧ registry' = registry.remove key
        ∧ ∃ entry, registry.get? key = some entry ∧ entry.isUntouched = true) := by
  unfold rollbackAccept at h
  split at h
  . cases h
    exact .inl ⟨rfl, rfl⟩
  next entry hget =>
    obtain ⟨_, h⟩ := error_ite_eq_ok.mp h
    obtain ⟨huntouched, h⟩ := error_ite_eq_ok.mp h
    cases h
    exact .inr ⟨rfl, rfl, entry, hget, by simpa using huntouched⟩

theorem step_rollbackAccept (request : CallRequest) :
    registry.Steps (.rollbackAccept key request) := by
  refine transition_settle ?_ (by simp [Quiet])
  intro removed registry' h
  obtain ⟨rfl, rfl⟩ | ⟨rfl, rfl, entry, hget, huntouched⟩ := rollbackAccept_eq_ok h
  . exact .same (by simp [Quiet])
  . exact .removed ⟨.inl ⟨request, rfl⟩, rfl⟩ hget (.inl huntouched)

theorem step_removeTerminal : registry.Steps (.removeTerminal key) := by
  simp only [Steps, step]
  unfold removeTerminal
  split
  next hterminal =>
    cases hget : registry.get? key with
    | none => simp [hget] at hterminal
    | some entry =>
      rw [hget] at hterminal
      exact Transition.removed ⟨.inr rfl, rfl⟩ hget (.inr hterminal)
  . exact .same (by simp [Quiet])

theorem claimSpawn_eq_ok {registry : Registry} {key : CallKey} {requestSha256 : String}
    (h : registry.claimSpawn key requestSha256 = .ok (claim, registry')) :
    ∃ entry, registry.get? key = some entry
      ∧ ((claim = .inhibited entry.snapshot ∧ registry' = registry)
        ∨ (claim = .existing entry.snapshot ∧ registry' = registry)
        ∨ (entry.dispatch = .accepted false ∧ entry.cancellation = false
          ∧ ∃ entry', entry' = { entry with
                dispatch := .started registry.nextSpawnGeneration none }.pushEvent
              (.spawnClaimed registry.nextSpawnGeneration) registry.limits.maxHistoryPerCall
            ∧ claim = .granted registry.nextSpawnGeneration entry'.snapshot
            ∧ registry' = { registry with
                nextSpawnGeneration := registry.nextSpawnGeneration + 1 }.insert key entry')) := by
  unfold claimSpawn at h
  obtain ⟨_, _, h⟩ := bind_eq_ok.mp h
  split at h
  . cases h
  next entry hget =>
    refine ⟨entry, hget, ?_⟩
    split at h
    . cases h
    . split at h
      next inhibited hdispatch =>
        split at h
        . cases h
          exact .inl ⟨rfl, rfl⟩
        next hopen =>
          simp only [Bool.or_eq_true, not_or, Bool.not_eq_true] at hopen
          obtain ⟨⟨generation, allocated⟩, hallocate, h⟩ := bind_eq_ok.mp h
          unfold allocateGeneration at hallocate
          split at hallocate
          . cases hallocate
          . cases hallocate
            cases h
            rw [hopen.1] at hdispatch
            exact .inr (.inr ⟨hdispatch, hopen.2, _, rfl, rfl, rfl⟩)
      . cases h
        exact .inr (.inl ⟨rfl, rfl⟩)
      . cases h
        exact .inr (.inl ⟨rfl, rfl⟩)

theorem step_claimSpawn (requestSha256 : String) :
    registry.Steps (.claimSpawn key requestSha256) := by
  refine transition_settle ?_ (by simp [Quiet])
  intro claim registry' hclaim
  obtain ⟨entry, hget, hcases⟩ := claimSpawn_eq_ok hclaim
  obtain ⟨rfl, rfl⟩ | ⟨rfl, rfl⟩ | ⟨haccepted, hcancel, _, rfl, rfl, rfl⟩ := hcases
  . exact .same (by simp [Quiet])
  . exact .same (by simp [Quiet])
  . exact .granted ⟨⟨requestSha256, rfl⟩, _, rfl⟩ hget haccepted hcancel

theorem step_recordPid : registry.Steps (.recordPid key generation pid) := by
  refine transition_settle ?_ (by simp [Quiet])
  intro x registry' hrecord
  unfold recordPid at hrecord
  split at hrecord
  . cases hrecord
  . split at hrecord
    . cases hrecord
    next entry hget =>
      split at hrecord
      next expected observed hdispatch =>
        split at hrecord
        next hexpected =>
          split at hrecord
          . split at hrecord
            . cases hrecord
              exact .same (by simp [Quiet])
            . cases hrecord
          . cases hrecord
            subst hexpected
            exact .changed hget (.pid hdispatch) (by simp [Quiet])
        . cases hrecord
      . cases hrecord
      . cases hrecord

theorem step_complete (generation : Nat) (terminal : TerminalRecord) :
    registry.Steps (.complete key generation terminal) := by
  refine transition_settle ?_ (by simp [Quiet])
  intro x registry' hcomplete
  unfold complete at hcomplete
  obtain ⟨_, _, hcomplete⟩ := bind_eq_ok.mp hcomplete
  split at hcomplete
  . cases hcomplete
  next entry hget =>
    split at hcomplete
    next expected pid hdispatch =>
      split at hcomplete
      next hexpected =>
        cases hcomplete
        subst hexpected
        exact .changed hget (.complete hdispatch) (by simp [Quiet])
      . cases hcomplete
    . split at hcomplete
      . cases hcomplete
        exact .same (by simp [Quiet])
      . cases hcomplete
    . cases hcomplete

theorem step_cancelSignal : registry.Steps (.cancelSignal key) := by
  simp only [Steps, step]
  unfold cancelSignal
  split
  . exact .same (by simp [Quiet])
  next entry hget => exact .changed hget .signal (by simp [Quiet])

theorem step_transition (op : Op) : registry.Steps op := by
  cases op with
  | begin key request => apply step_begin
  | rollbackAccept key request => apply step_rollbackAccept
  | inhibitSpawn key => apply step_inhibitSpawn
  | claimSpawn key requestSha256 => apply step_claimSpawn
  | recordPid key generation pid => apply step_recordPid
  | requestCancel key => apply step_requestCancel
  | markConnectionLost key => apply step_markConnectionLost
  | markConnectionAttached key => apply step_markConnectionAttached
  | complete key generation terminal => apply step_complete
  | snapshot _ | historyFrom _ _ | len => exact .same (by simp [Quiet, step])
  | removeTerminal key => apply step_removeTerminal
  | cancelSignal key => apply step_cancelSignal

end Registry

end CallRegistry
