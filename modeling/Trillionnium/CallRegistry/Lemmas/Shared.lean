import Trillionnium.CallRegistry.Impl.Shared
import Trillionnium.CallRegistry.Lemmas.Capacity

/-!
The counter of the call registry counts the entries and the slots of the calls in flight.
-/

namespace CallRegistry

variable {registry : Registry}

theorem Registry.exists_of_removeTerminal {key : CallKey}
    (h : registry.removeTerminal key = (true, registry')) :
    ∃ entry, registry.get? key = some entry := by
  unfold removeTerminal at h
  split at h
  next hterminal =>
    cases hget : registry.get? key with
    | none => simp [hget] at hterminal
    | some entry => exact ⟨entry, rfl⟩
  . cases h

namespace Shared

open Registry

def Absent (registry : Registry) (shard : Fin registryShardCount) : Option Holder → Prop
  | some (.reserved key _) => shardIndex key = shard ∧ registry.get? key = none
  | _ => True

theorem Absent.mono {registry' : Registry} (h : Absent registry shard holder)
    (hnone : ∀ key, shardIndex key = shard → registry.get? key = none → registry'.get? key = none) :
    Absent registry' shard holder := by
  match holder with
  | some (.reserved key _) => exact ⟨h.1, hnone key h.1 h.2⟩
  | some .removed | none => trivial

variable {limits : RegistryLimits} {s s' : Shared} {key : CallKey}

structure Accounted (limits : RegistryLimits) (s : Shared) : Prop where
  limits_eq : s.registry.limits = limits
  count_eq : s.registry.entryCount = Sharded.size s.registry.shards + s.inFlight
  bound : s.registry.entryCount ≤ limits.maxEntries
  fits : limits.maxEntries < 2 ^ 64
  absent : ∀ shard, Absent s.registry shard (s.holders shard)

theorem inFlight_hold (h : s.holders (shardIndex key) = holder) (registry : Registry)
    (holder' : Option Holder) :
    inFlight ⟨registry, s.hold key holder'⟩ + holder.elim 0 (fun _ => 1)
      = s.inFlight + holder'.elim 0 (fun _ => 1) := by
  rw [← h]
  exact Sharded.sum_update (fun holder : Option Holder => holder.elim 0 fun _ => 1) _

theorem absent_hold (h : s.Accounted limits) (hholder : Absent registry (shardIndex key) holder)
    (hnone : ∀ key', key' ≠ key → s.registry.get? key' = none → registry.get? key' = none) :
    ∀ shard, Absent registry shard (s.hold key holder shard) := by
  refine (Function.forall_update_iff s.holders (Absent registry)).mpr ⟨hholder, ?_⟩
  intro shard hne
  apply (h.absent shard).mono
  intro key' hshard
  apply hnone
  rintro rfl
  exact hne hshard.symm

theorem Accounted.change (h : s.Accounted limits) {entry : Entry}
    (hget : s.registry.get? key = some entry) (entry' : Entry) (generation : Nat) :
    Accounted limits
      ⟨{ s.registry.insert key entry' with nextSpawnGeneration := generation }, s.holders⟩ := by
  have hsize := Sharded.size_insert_of_some shardIndex s.registry.shards entry' hget
  refine ⟨h.limits_eq, ?_, h.bound, h.fits, ?_⟩
  . exact h.count_eq.trans (congrArg (· + s.inFlight) hsize.symm)
  . intro shard
    apply (h.absent shard).mono
    intro key' _ hnone
    rw [← hnone]
    apply Sharded.get?_insert_of_ne
    rintro rfl
    rw [hget] at hnone
    cases hnone

theorem Step.accounted (hstep : Step s s') (h : s.Accounted limits) : s'.Accounted limits := by
  have hcount := h.count_eq
  have hbound := h.bound
  have hlimits := h.limits_eq
  cases hstep with
  | @reserve key request snapshot registry hfree hbegin =>
    obtain ⟨_, _, hresult, _⟩ | ⟨hget, hroom, _⟩ := Registry.begin_eq_ok hbegin
    . cases hresult
    . have hflight := inFlight_hold hfree
        { s.registry with entryCount := s.registry.entryCount + 1 } (some (.reserved key request))
      dsimp only [Option.elim] at hflight
      refine ⟨hlimits, ?_, hlimits ▸ hroom, h.fits, absent_hold h ⟨rfl, hget⟩ fun _ _ => id⟩
      dsimp only
      omega
  | @insert key request hholder =>
    have hget : s.registry.get? key = none := by
      have habsent := h.absent (shardIndex key)
      rw [hholder] at habsent
      exact habsent.2
    have hsize := Sharded.size_insert_of_none shardIndex s.registry.shards
      (s.registry.freshEntry key request) hget
    have hflight := inFlight_hold hholder
      (s.registry.insert key (s.registry.freshEntry key request)) none
    dsimp only [Option.elim] at hflight
    refine ⟨hlimits, ?_, hbound, h.fits, absent_hold h trivial ?_⟩
    . dsimp only [Registry.insert] at hflight ⊢
      omega
    . intro key' hne hnone
      rw [← hnone]
      exact Sharded.get?_insert_of_ne hne
  | @remove key request registry hfree hremove =>
    obtain ⟨entry, hget⟩ : ∃ entry, s.registry.get? key = some entry := by
      cases hremove with
      | inl hrollback =>
        obtain ⟨hremoved, _⟩ | ⟨_, _, entry, hget, _⟩ := rollbackAccept_eq_ok hrollback
        . cases hremoved
        . exact ⟨entry, hget⟩
      | inr hterminal => exact exists_of_removeTerminal hterminal
    have hsize := Sharded.size_erase shardIndex s.registry.shards hget
    have hflight := inFlight_hold hfree
      { s.registry with shards := Sharded.erase shardIndex s.registry.shards key } (some .removed)
    dsimp only [Option.elim] at hflight
    refine ⟨hlimits, ?_, hbound, h.fits, absent_hold h trivial ?_⟩
    . dsimp only
      omega
    . intro key' hne hnone
      rw [← hnone]
      exact Sharded.get?_erase_of_ne hne
  | @release key hholder =>
    obtain ⟨count, hrelease, hregistry⟩ : ∃ count, s.registry.releaseEntry
        = { s.registry with entryCount := count } ∧ (0 < s.registry.entryCount
          → count + 1 = s.registry.entryCount) := by
      refine ⟨_, rfl, fun hpos => ?_⟩
      have hfits := h.fits
      unfold Sharded.release
      omega
    have hflight := inFlight_hold hholder s.registry.releaseEntry none
    rw [hrelease] at hflight ⊢
    dsimp only [Option.elim] at hflight
    have hcount' := hregistry (by omega)
    refine ⟨hlimits, ?_, ?_, h.fits, absent_hold h trivial fun _ _ => id⟩
    . dsimp only
      omega
    . dsimp only
      omega
  | @other op _ hbegin hremove =>
    have htransition : s.registry.Transition op (s.registry.step op).2 (s.registry.step op).1 :=
      s.registry.step_transition op
    generalize (s.registry.step op).2 = out at htransition hremove
    generalize (s.registry.step op).1 = registry' at htransition ⊢
    cases htransition with
    | same _ => exact h
    | changed hget _ _ => exact h.change hget _ s.registry.nextSpawnGeneration
    | created hop _ _ _ => exact absurd hop (hbegin _ _)
    | removed hremoved _ _ => exact absurd hremoved.2 hremove
    | granted _ hget _ _ => exact h.change hget _ _

theorem accounted_start (hnew : Registry.new limits = .ok registry) :
    (start registry).Accounted limits := by
  have hcounted := Registry.counted_new hnew
  have hlimits : registry.limits = limits := by
    unfold Registry.new at hnew
    obtain ⟨_, _, hregistry⟩ := Except.bind_eq_ok.mp hnew
    cases hregistry
    rfl
  have hnone : (start registry).inFlight = 0 := Finset.sum_eq_zero fun _ _ => rfl
  refine ⟨hlimits, ?_, hlimits ▸ hcounted.bound, hlimits ▸ hcounted.fits, fun _ => trivial⟩
  rw [hnone, Nat.add_zero]
  exact hcounted.count_eq

theorem entryCount_eq_inFlight {registry : Registry} (hnew : Registry.new limits = .ok registry)
    (hsteps : Relation.ReflTransGen Step (start registry) s) :
    s.registry.entryCount = Sharded.size s.registry.shards + s.inFlight
      ∧ s.registry.entryCount ≤ limits.maxEntries := by
  have h : s.Accounted limits := by
    induction hsteps with
    | refl => exact accounted_start hnew
    | tail _ hstep ih => exact hstep.accounted ih
  exact ⟨h.count_eq, h.bound⟩

set_option maxRecDepth 10000 in
theorem entryCount_eq_inFlight_reserved :
    ∃ s, Step (start emptyRegistry) s ∧ s.registry.get? sampleKey = none
      ∧ s.registry.entryCount = Sharded.size s.registry.shards + s.inFlight := by
  have hstep := Step.reserve (s := start emptyRegistry) rfl
    (show emptyRegistry.begin sampleKey sampleRequest = .ok _ from rfl)
  have hnew : Registry.new .default = .ok emptyRegistry := rfl
  exact ⟨_, hstep, rfl, (entryCount_eq_inFlight hnew (.single hstep)).1⟩

end Shared

end CallRegistry
