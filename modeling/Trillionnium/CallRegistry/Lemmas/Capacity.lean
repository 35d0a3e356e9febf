import Trillionnium.CallRegistry.Lemmas.Spawn

/-!
The capacity of the call registry. The counter of the entries counts them, and an entry can be
removed unless its call was cancelled or inhibited before it was spawned.
-/

namespace CallRegistry

namespace Registry

open Machine

def Counted (registry : Registry) : Prop :=
  Sharded.Counted registry.limits.maxEntries registry.shards registry.entryCount

variable {registry : Registry} {limits : RegistryLimits} {key : CallKey} {entry : Entry}

theorem Transition.counted (h : registry.Transition op out registry') (hcounted : registry.Counted)
    : registry'.Counted := by
  cases h with
  | same _ => exact hcounted
  | changed hget _ _ | granted _ hget _ _ => exact Sharded.Counted.insert_of_some hcounted hget
  | created _ hget hroom _ => exact Sharded.Counted.insert_of_none hcounted hroom hget
  | removed _ hget _ => exact Sharded.Counted.erase hcounted hget

theorem counted_new (h : Registry.new limits = .ok registry) : registry.Counted := by
  unfold new at h
  obtain ⟨_, hlimits, h⟩ := Except.bind_eq_ok.mp h
  cases h
  have hfits : limits.maxEntries < 2 ^ 64 := by
    unfold RegistryLimits.validate at hlimits
    obtain ⟨_, hlimits⟩ := Except.error_ite_eq_ok.mp hlimits
    obtain ⟨hbounds, _⟩ := Except.error_ite_eq_ok.mp hlimits
    simp only [maxRegistryEntries] at hbounds
    omega
  exact Sharded.Counted.empty hfits

theorem counted_run (hnew : Registry.new limits = .ok registry) :
    (run step registry ops).Counted := by
  apply run_invariant (counted_new hnew)
  intro registry op h
  exact (registry.step_transition op).counted h

theorem sound_run (hnew : Registry.new limits = .ok registry) (ops : List Op) :
    (run step registry ops).Sound := by
  apply run_invariant (sound_new hnew)
  intro registry op h
  apply sound_step
  exact h

theorem step_rollbackAccept_of_isUntouched (hget : registry.get? key = some entry)
    (h : entry.isUntouched = true) :
    (registry.step (.rollbackAccept key entry.request)).1 = registry.remove key := by
  simp [step, rollbackAccept, hget, h, settle]

theorem step_removeTerminal_of_isTerminal (hget : registry.get? key = some entry)
    (h : entry.isTerminal = true) :
    (registry.step (.removeTerminal key)).1 = registry.remove key := by
  simp [step, removeTerminal, hget, h]

theorem validateTerminal_sampleTerminal : validateTerminal sampleTerminal = .ok () := rfl

theorem step_complete_of_started (hget : registry.get? key = some entry)
    (h : entry.dispatch = .started generation pid) :
    (registry.step (.complete key generation sampleTerminal)).1
      = registry.insert key
          (registry.push { entry with dispatch := .terminal generation sampleTerminal }
            (.terminalRecorded generation sampleTerminal)) := by
  simp [step, complete, validateTerminal_sampleTerminal, hget, h, settle]

def Releases (registry : Registry) (key : CallKey) (ops : List Op) : Prop :=
  (∀ op ∈ ops, op.key? = some key)
    ∧ (run step registry ops).get? key = none
    ∧ (run step registry ops).entryCount + 1 = registry.entryCount

theorem releases_of_remove {op : Op} (hcounted : registry.Counted)
    (hget : registry.get? key = some entry) (hkey : op.key? = some key)
    (hstep : (registry.step op).1 = registry.remove key) : registry.Releases key [op] := by
  refine ⟨by simpa using hkey, ?_, ?_⟩
  . simp only [run, List.foldl_cons, List.foldl_nil, hstep]
    apply Sharded.get?_erase_self
  . simp only [run, List.foldl_cons, List.foldl_nil, hstep]
    exact Sharded.Counted.release_add_one hcounted hget

theorem exists_releases (hcounted : registry.Counted) (hsound : entry.Sound)
    (hget : registry.get? key = some entry) (h : ¬ entry.isNotStarted) :
    ∃ ops, registry.Releases key ops := by
  cases hdispatch : entry.dispatch with
  | accepted inhibited =>
    have hopen : (inhibited || entry.cancellation) = false := by
      cases hclosed : (inhibited || entry.cancellation) with
      | false => rfl
      | true => exact absurd ⟨inhibited, hdispatch, hclosed⟩ h
    simp only [Bool.or_eq_false_iff] at hopen
    rw [hopen.1] at hdispatch
    have huntouched := hsound.isUntouched hdispatch hopen.2
    exact ⟨_, releases_of_remove hcounted hget rfl
      (step_rollbackAccept_of_isUntouched hget huntouched)⟩
  | started generation pid =>
    have hstep := step_complete_of_started hget hdispatch
    have hcounted' : (registry.step (.complete key generation sampleTerminal)).1.Counted :=
      (registry.step_transition _).counted hcounted
    rw [hstep] at hcounted'
    obtain ⟨hkeys, hnone, hcount⟩ := releases_of_remove hcounted' (get?_insert_self registry key _) rfl
      (step_removeTerminal_of_isTerminal (get?_insert_self registry key _) rfl)
    refine ⟨.complete key generation sampleTerminal :: [.removeTerminal key], ?_, ?_, ?_⟩
    . intro op hop
      cases List.mem_cons.mp hop with
      | inl heq => rw [heq]; rfl
      | inr hmem => exact hkeys op hmem
    . rw [run, List.foldl_cons, hstep]
      exact hnone
    . rw [run, List.foldl_cons, hstep]
      exact hcount
  | terminal generation terminal =>
    have hterminal : entry.isTerminal = true := by
      unfold Entry.isTerminal
      rw [hdispatch]
    exact ⟨_, releases_of_remove hcounted hget rfl
      (step_removeTerminal_of_isTerminal hget hterminal)⟩

theorem has_isNotStarted_run (h : registry.Has key Entry.isNotStarted) :
    (run step registry ops).Has key Entry.isNotStarted := by
  apply run_invariant h
  intro registry op h
  apply has_isNotStarted_step
  exact h

theorem exists_releases_iff {limits : RegistryLimits} {registry : Registry}
    (hnew : Registry.new limits = .ok registry) (ops : List Op) {key : CallKey} {entry : Entry}
    (hget : (run step registry ops).get? key = some entry) :
    (∃ more, (run step registry ops).Releases key more)
      ↔ entry.effectiveState.isNotStarted = false := by
  have hsound := sound_run hnew ops key entry hget
  constructor
  . rintro ⟨more, _, hnone, _⟩
    cases hstate : entry.effectiveState.isNotStarted with
    | false => rfl
    | true =>
      have hclosed : (run step registry ops).Has key Entry.isNotStarted :=
        ⟨entry, hget, hsound.isNotStarted_iff.mp hstate⟩
      obtain ⟨entry', hget', _⟩ := has_isNotStarted_run hclosed
      rw [hnone] at hget'
      cases hget'
  . intro hstate
    apply exists_releases (counted_run hnew) hsound hget
    rw [← hsound.isNotStarted_iff, hstate]
    simp

set_option maxRecDepth 10000

theorem exists_releases_claimed :
    ∃ more, (run step emptyRegistry (sampleOps.take 2)).Releases sampleKey more := by
  have hnew : Registry.new .default = .ok emptyRegistry := rfl
  exact (exists_releases_iff hnew (sampleOps.take 2) rfl).mpr rfl

def cancelledOps : List Op := [.begin sampleKey sampleRequest, .requestCancel sampleKey]

theorem cancelled_never_released :
    (∃ entry, (run step emptyRegistry cancelledOps).get? sampleKey = some entry)
      ∧ ¬ ∃ more, (run step emptyRegistry cancelledOps).Releases sampleKey more := by
  have hclosed : (run step emptyRegistry cancelledOps).Has sampleKey Entry.isNotStarted :=
    ⟨_, rfl, false, rfl, rfl⟩
  refine ⟨⟨_, rfl⟩, ?_⟩
  rintro ⟨more, _, hnone, _⟩
  obtain ⟨entry, hget, _⟩ := has_isNotStarted_run hclosed
  rw [hnone] at hget
  cases hget

end Registry

end CallRegistry
