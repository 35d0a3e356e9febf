import Trillionnium.Data.Except
import Trillionnium.JobRegistry.Impl.Step

namespace JobRegistry

open Except

inductive DispatchState.Moves (key : JobKey) (op : Op) : DispatchState → DispatchState → Prop where
  | same (dispatch : DispatchState) : Moves key op dispatch dispatch
  | started (generation pid : Nat) (pty : Bool) :
    Moves key op (.claimed generation false) (.running generation pid pty false)
  | uncertain (dispatch : DispatchState) : Moves key op dispatch dispatch.markUncertain
  | completed {generation : Nat} {terminal : JobTerminal}
      (hop : op = .complete key generation terminal) (pid : Nat) (pty restartUncertain : Bool) :
    Moves key op (.running generation pid pty restartUncertain) (.terminal generation terminal)

def Removes (key : JobKey) (op : Op) (out : Answer) : Prop :=
  ((∃ request, op = .rollbackAccept key request) ∨ op = .removeTerminal key) ∧ out = .removed (.ok true)

def Grants (key : JobKey) (generation : Nat) (op : Op) (out : Answer) : Prop :=
  (∃ requestSha256, op = .claimSpawn key requestSha256)
    ∧ ∃ snapshot, out = .claimed (.ok (.granted generation snapshot))

theorem Removes.not_grants {key : JobKey} (h : Removes key op out) (generation : Nat) :
    ¬ Grants key' generation op out := by
  rintro ⟨_, snapshot, hout⟩
  rw [h.2] at hout
  cases hout

def Quiet (op : Op) (out : Answer) : Prop := ∀ key generation, ¬ Grants key generation op out

theorem quiet_of_ne {out : Answer}
    (h : ∀ generation snapshot, out ≠ .claimed (.ok (.granted generation snapshot))) :
    Quiet op out := by
  rintro key generation ⟨_, snapshot, hout⟩
  exact h generation snapshot hout

inductive Evolution (key : JobKey) (op : Op) (out : Answer) :
    Option DispatchState → Option DispatchState → Prop where
  | same (hgrant : ∀ generation, ¬ Grants key generation op out) :
    Evolution key op out dispatch dispatch
  | moved (h : DispatchState.Moves key op dispatch dispatch')
      (hgrant : ∀ generation, ¬ Grants key generation op out) :
    Evolution key op out (some dispatch) (some dispatch')
  | created (hgrant : ∀ generation, ¬ Grants key generation op out) :
    Evolution key op out none (some (.accepted false))
  | removed (hremove : Removes key op out)
      (h : dispatch = .accepted false ∨ ∃ generation terminal,
        dispatch = .terminal generation terminal) :
    Evolution key op out (some dispatch) none
  | granted (hgrant : Grants key generation op out) :
    Evolution key op out (some (.accepted false)) (some (.claimed generation false))

namespace Registry

open Machine

def dispatch? (registry : Registry) (key : JobKey) : Option DispatchState :=
  (registry.get? key).map Entry.dispatch

theorem dispatch?_eq {registry : Registry} {key : JobKey} (h : registry.get? key = entry) :
    registry.dispatch? key = entry.map Entry.dispatch := congrArg _ h

theorem get?_insert_self (registry : Registry) (key : JobKey) (entry : Entry) :
    (registry.insert key entry).get? key = some entry := by
  unfold get? insert
  rw [Sharded.get?_insert_self]

abbrev Evolves (registry : Registry) (op : Op) (out : Answer) (registry' : Registry) : Prop :=
  ∀ key, Evolution key op out (registry.dispatch? key) (registry'.dispatch? key)

theorem evolves_same {registry : Registry}
    (h : ∀ generation snapshot, out ≠ .claimed (.ok (.granted generation snapshot))) :
    registry.Evolves op out registry :=
  fun key => .same (quiet_of_ne h key)

theorem evolves_insert {registry : Registry} {entry : Entry} (entryCount nextSpawnGeneration : Nat)
    (hself : Evolution key op out (registry.dispatch? key) (some entry.dispatch))
    (hother : ∀ key', key' ≠ key → ∀ generation, ¬ Grants key' generation op out) :
    registry.Evolves op out
      (insert { registry with entryCount, nextSpawnGeneration } key entry) := by
  apply Sharded.get?_insert_rule (P := fun key entry =>
    Evolution key op out (registry.dispatch? key) (entry.map Entry.dispatch))
  . exact hself
  . exact fun key' hne => .same (hother key' hne)

theorem evolves_remove {registry : Registry} {entry : Entry} (hremove : Removes key op out)
    (hget : registry.get? key = some entry)
    (h : entry.dispatch = .accepted false ∨ ∃ generation terminal,
      entry.dispatch = .terminal generation terminal) :
    registry.Evolves op out (registry.remove key) := by
  apply Sharded.get?_erase_rule (P := fun key entry =>
    Evolution key op out (registry.dispatch? key) (entry.map Entry.dispatch))
  . rw [dispatch?_eq hget]
    exact .removed hremove h
  . exact fun _ _ => .same hremove.not_grants

section mutate

variable {α : Type} {registry : Registry} {key : JobKey} {change : Entry → Result (α × Entry)}

theorem mutate_eq_ok {x : α} (h : registry.mutate key change = .ok (x, registry')) :
    ∃ entry entry', registry.get? key = some entry ∧ change entry = .ok (x, entry')
      ∧ registry' = registry.insert key entry' := by
  unfold mutate at h
  split at h
  . cases h
  next entry hget =>
    obtain ⟨⟨x', entry'⟩, hchange, h⟩ := bind_eq_ok.mp h
    cases h
    exact ⟨entry, entry', hget, hchange, rfl⟩

theorem mutate_of_error {entry : Entry} (hget : registry.get? key = some entry)
    (h : ∃ e, change entry = .error e) : ∃ e, registry.mutate key change = .error e := by
  obtain ⟨e, h⟩ := h
  refine ⟨e, ?_⟩
  unfold mutate
  rw [hget]
  simp [h]

theorem mutate_of_ok {entry : Entry} {x : α} (hget : registry.get? key = some entry)
    (h : change entry = .ok (x, entry')) :
    registry.mutate key change = .ok (x, registry.insert key entry') := by
  unfold mutate
  rw [hget]
  simp [h]

end mutate

theorem evolves_settle {α : Type} {registry : Registry} {op : Op} {answer : Result α → Answer}
    {result : Result (α × Registry)} (hok : ∀ x registry', result = .ok (x, registry')
      → registry.Evolves op (answer (.ok x)) registry')
    (herror : ∀ e generation snapshot,
      answer (.error e) ≠ .claimed (.ok (.granted generation snapshot))) :
    registry.Evolves op (settle registry answer result).2 (settle registry answer result).1 := by
  apply settle_rule (P := registry.Evolves op) _ hok
  exact fun e => evolves_same (herror e)

theorem evolves_mutate {α : Type} {registry : Registry} (answer : Result α → Answer)
    {result : Result (α × Registry)} {key : JobKey} {change : Entry → Result (α × Entry)}
    (hanswer : ∀ result generation snapshot,
      answer result ≠ .claimed (.ok (.granted generation snapshot)))
    (hresult : ∀ x registry', result = .ok (x, registry')
      → registry.mutate key change = .ok (x, registry'))
    (hchange : ∀ (entry entry' : Entry) (x : α), change entry = .ok (x, entry')
      → DispatchState.Moves key op entry.dispatch entry'.dispatch) :
    registry.Evolves op (settle registry answer result).2 (settle registry answer result).1 := by
  have hquiet result : Quiet op (answer result) := quiet_of_ne (hanswer result)
  refine evolves_settle ?_ fun _ => hanswer _
  intro x registry' h
  obtain ⟨entry, entry', hget, hentry, rfl⟩ := mutate_eq_ok (hresult x registry' h)
  apply evolves_insert _ _ _ (fun key' _ => hquiet _ key')
  rw [dispatch?_eq hget]
  exact .moved (hchange entry entry' x hentry) (hquiet _ key)

abbrev Steps (registry : Registry) (op : Op) : Prop :=
  registry.Evolves op (registry.step op).2 (registry.step op).1

variable (registry : Registry) (key : JobKey)

theorem step_recordStarted : registry.Steps (.recordStarted key generation pid pty) := by
  apply evolves_mutate .mutated (by simp)
  . intro x registry' h
    unfold recordStarted at h
    split at h
    . cases h
    . exact h
  . intro entry entry' x h
    split at h
    next expected restartUncertain hdispatch =>
      split at h
      next hclaimed =>
        cases h
        rw [hdispatch, hclaimed.1, hclaimed.2]
        exact .started generation pid pty
      . cases h
    . split at h
      . cases h
        exact .same _
      . cases h
    . cases h
    . cases h

theorem step_recordOutput : registry.Steps (.recordOutput key generation stream bytes sha256) := by
  apply evolves_mutate .output (by simp)
  . intro x registry' h
    obtain ⟨_, _, h⟩ := bind_eq_ok.mp h
    obtain ⟨_, _, h⟩ := bind_eq_ok.mp h
    exact h
  . intro entry entry' x h
    split at h
    . split at h
      . cases h
        exact .same _
      . cases h
    . cases h
    . cases h
    . cases h

theorem step_recordInput : registry.Steps (.recordInput key bytes sha256) := by
  apply evolves_mutate .mutated (by simp)
  . intro x registry' h
    obtain ⟨_, _, h⟩ := bind_eq_ok.mp h
    exact h
  . intro entry entry' x h
    obtain ⟨_, _, h⟩ := bind_eq_ok.mp h
    split at h
    . cases h
    . cases h
      exact .same _

theorem step_recordResize : registry.Steps (.recordResize key rows cols) := by
  apply evolves_mutate .mutated (by simp)
  . intro x registry' h
    unfold recordResize at h
    split at h
    . cases h
    . exact h
  . intro entry entry' x h
    split at h
    . cases h
      exact .same _
    . cases h
    . cases h

theorem step_closeStdin : registry.Steps (.closeStdin key) := by
  apply evolves_mutate .mutated (by simp)
  . intro x registry' h
    exact h
  . intro entry entry' x h
    obtain ⟨_, _, h⟩ := bind_eq_ok.mp h
    split at h
    . cases h
      exact .same _
    . cases h
      exact .same _

theorem step_requestKill (signal : Int) : registry.Steps (.requestKill key signal) := by
  apply evolves_mutate .mutated (by simp)
  . intro x registry' h
    unfold requestKill at h
    split at h
    . cases h
    . exact h
  . intro entry entry' x h
    obtain ⟨_, _, h⟩ := bind_eq_ok.mp h
    cases h
    exact .same _

theorem step_attach : registry.Steps (.attach key attachmentId) := by
  apply evolves_mutate .mutated (by simp)
  . intro x registry' h
    obtain ⟨_, _, h⟩ := bind_eq_ok.mp h
    exact h
  . intro entry entry' x h
    split at h
    . cases h
      exact .same _
    . split at h
      . cases h
      . cases h
        exact .same _

theorem step_detach : registry.Steps (.detach key attachmentId) := by
  apply evolves_mutate .mutated (by simp)
  . intro x registry' h
    exact h
  . intro entry entry' x h
    split at h
    . cases h
      exact .same _
    . cases h
      exact .same _

theorem step_markRestartUncertain : registry.Steps (.markRestartUncertain key) := by
  apply evolves_mutate .observed (by simp)
  . intro x registry' h
    exact h
  . intro entry entry' x h
    split at h
    . cases h
      exact .same _
    . cases h
      exact .uncertain _

theorem step_complete (generation : Nat) (terminal : JobTerminal) :
    registry.Steps (.complete key generation terminal) := by
  apply evolves_mutate .mutated (by simp)
  . intro x registry' h
    obtain ⟨_, _, h⟩ := bind_eq_ok.mp h
    exact h
  . intro entry entry' x h
    split at h
    next expected pid pty restartUncertain hdispatch =>
      split at h
      next hexpected =>
        cases h
        subst hexpected
        rw [hdispatch]
        exact .completed rfl pid pty restartUncertain
      . cases h
    . split at h
      . cases h
        exact .same _
      . cases h
    . cases h
    . cases h

theorem begin_eq_ok {registry : Registry} {key : JobKey} {request : JobRequest}
    {result : BeginResult} (h : registry.begin key request = .ok (result, registry')) :
    (∃ entry, registry.get? key = some entry ∧ result = ⟨.existing, entry.snapshot⟩
      ∧ registry' = registry)
    ∨ (registry.get? key = none ∧ registry.entryCount < registry.limits.maxEntries
      ∧ result = ⟨.new, (registry.freshEntry key request).snapshot⟩
      ∧ registry' = { registry with entryCount := registry.entryCount + 1 }.insert key
          (registry.freshEntry key request)) := by
  unfold begin at h
  obtain ⟨_, _, h⟩ := bind_eq_ok.mp h
  obtain ⟨_, _, h⟩ := bind_eq_ok.mp h
  split at h
  next entry hget =>
    split at h
    . cases h
    . cases h
      exact .inl ⟨entry, hget, rfl, rfl⟩
  next hget =>
    obtain ⟨reserved, hreserve, h⟩ := bind_eq_ok.mp h
    unfold reserveEntry at hreserve
    split at hreserve
    . cases hreserve
    next hroom =>
      cases hreserve
      cases h
      exact .inr ⟨hget, by omega, rfl, rfl⟩

theorem step_begin (request : JobRequest) : registry.Steps (.begin key request) := by
  refine evolves_settle ?_ (by simp)
  intro result registry' hbegin
  have hquiet : Quiet (.begin key request) (.begun (.ok result)) := quiet_of_ne (by simp)
  obtain ⟨_, _, _, rfl⟩ | ⟨hget, _, _, rfl⟩ := begin_eq_ok hbegin
  . exact evolves_same (by simp)
  . apply evolves_insert _ _ _ (fun key' _ => hquiet key')
    rw [dispatch?_eq hget]
    exact .created (hquiet key)

theorem step_rollbackAccept (request : JobRequest) :
    registry.Steps (.rollbackAccept key request) := by
  refine evolves_settle ?_ (by simp)
  intro removed registry' h
  unfold rollbackAccept at h
  split at h
  . cases h
    exact evolves_same (by simp)
  next entry hget =>
    obtain ⟨_, h⟩ := error_ite_eq_ok.mp h
    obtain ⟨huntouched, h⟩ := error_ite_eq_ok.mp h
    cases h
    simp only [Entry.isUntouched, Bool.not_eq_true, Bool.not_eq_false', Bool.and_eq_true,
      decide_eq_true_eq] at huntouched
    exact evolves_remove ⟨.inl ⟨request, rfl⟩, rfl⟩ hget (.inl huntouched.1.1.1.1.1)

theorem step_removeTerminal : registry.Steps (.removeTerminal key) := by
  simp only [Steps, step]
  unfold removeTerminal
  split
  next hterminal =>
    cases hget : registry.get? key with
    | none => simp [hget] at hterminal
    | some entry =>
      refine evolves_remove ⟨.inr rfl, rfl⟩ hget (.inr ?_)
      rw [hget] at hterminal
      simp only [Option.any_some, Entry.isTerminal] at hterminal
      split at hterminal
      next generation terminal hdispatch => exact ⟨generation, terminal, hdispatch⟩
      . cases hterminal
  . exact evolves_same (by simp)

theorem claimSpawn_eq_ok {registry : Registry} {key : JobKey} {requestSha256 : String}
    (h : registry.claimSpawn key requestSha256 = .ok (claim, registry')) :
    ∃ entry, registry.get? key = some entry
      ∧ (((claim = .inhibited entry.snapshot ∨ claim = .existing entry.snapshot)
          ∧ registry' = registry)
        ∨ (entry.dispatch = .accepted false
          ∧ ∃ entry' : Entry, entry'.dispatch = .claimed registry.nextSpawnGeneration false
            ∧ claim = .granted registry.nextSpawnGeneration entry'.snapshot
            ∧ registry' = { registry with
                nextSpawnGeneration := registry.nextSpawnGeneration + 1 }.insert key entry')) := by
  unfold claimSpawn at h
  obtain ⟨_, _, h⟩ := bind_eq_ok.mp h
  split at h
  . cases h
  next entry hget =>
    refine ⟨entry, hget, ?_⟩
    split at h
    . cases h
    . split at h
      . cases h
        exact .inl ⟨.inl rfl, rfl⟩
      . cases h
        exact .inl ⟨.inr rfl, rfl⟩
      . cases h
        exact .inl ⟨.inr rfl, rfl⟩
      . cases h
        exact .inl ⟨.inr rfl, rfl⟩
      next hdispatch =>
        obtain ⟨⟨generation, allocated⟩, hallocate, h⟩ := bind_eq_ok.mp h
        unfold allocateGeneration at hallocate
        split at hallocate
        . cases hallocate
        . cases hallocate
          cases h
          exact .inr ⟨hdispatch, _, rfl, rfl, rfl⟩

theorem step_claimSpawn (requestSha256 : String) :
    registry.Steps (.claimSpawn key requestSha256) := by
  refine evolves_settle ?_ (by simp)
  intro claim registry' hclaim
  obtain ⟨entry, hget, hcases⟩ := claimSpawn_eq_ok hclaim
  obtain ⟨rfl | rfl, rfl⟩ | ⟨haccepted, entry', hclaimed, rfl, rfl⟩ := hcases
  . exact evolves_same (by simp)
  . exact evolves_same (by simp)
  . apply evolves_insert
    . rw [dispatch?_eq hget, Option.map_some, haccepted, hclaimed]
      exact .granted ⟨⟨requestSha256, rfl⟩, _, rfl⟩
    . rintro key' hne _ ⟨⟨_, hop⟩, _⟩
      cases hop
      exact hne rfl

theorem step_evolution (op : Op) : registry.Steps op := by
  cases op with
  | begin key request => apply step_begin
  | rollbackAccept key request => apply step_rollbackAccept
  | claimSpawn key requestSha256 => apply step_claimSpawn
  | recordStarted key generation pid pty => apply step_recordStarted
  | recordOutput key generation stream bytes sha256 => apply step_recordOutput
  | recordInput key bytes sha256 => apply step_recordInput
  | recordResize key rows cols => apply step_recordResize
  | closeStdin key => apply step_closeStdin
  | requestKill key signal => apply step_requestKill
  | attach key attachmentId => apply step_attach
  | detach key attachmentId => apply step_detach
  | markRestartUncertain key => apply step_markRestartUncertain
  | complete key generation terminal => apply step_complete
  | removeTerminal key => apply step_removeTerminal
  | snapshot _ | historyFrom _ _ | len => exact evolves_same (by simp [step])

end Registry

end JobRegistry
