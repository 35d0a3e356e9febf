import Trillionnium.ControlPlane.Lemmas.Step

namespace ControlPlane

variable {record : ReservationRecord}

def ReservationRecord.slotsOf (leaseId : String) (record : ReservationRecord) : Nat :=
  if record.leaseId = leaseId then record.slots else 0

namespace ControllerState

open Machine Relation

def leaseSlots (state : ControllerState) (leaseId : String) : Nat :=
  state.leaseReservedSlots[leaseId]?.getD 0

structure Balanced (state : ControllerState) : Prop where
  total : state.reservedSlots = state.reservations.sum ReservationRecord.slots
  perLease : ∀ leaseId, state.leaseSlots leaseId = state.reservations.sum (·.slotsOf leaseId)
  total_le : state.reservedSlots ≤ maxActiveAdmissionSlots
  leaseSlots_le : ∀ leaseId, state.leaseSlots leaseId ≤ state.config.defaultBudget.maxConcurrency
  id_le : ∀ (id : Nat) (record : ReservationRecord), state.reservations[id]? = some record
    → id ≤ state.nextReservation

def Saturates (state : ControllerState) (id : Nat) : Prop :=
  ∃ record, state.reservations[id]? = some record
    ∧ (state.reservedSlots < record.slots
      ∨ ∃ slots, state.leaseReservedSlots[record.leaseId]? = some slots ∧ slots < record.slots)

variable {state : ControllerState}

theorem Balanced.slots_le {id : Nat} (h : state.Balanced)
    (hget : state.reservations[id]? = some record) : record.slots ≤ state.reservedSlots := by
  rw [h.total, BTreeMap.sum_erase _ hget]
  apply Nat.le_add_right

theorem Balanced.slotsOf_le {id : Nat} (h : state.Balanced)
    (hget : state.reservations[id]? = some record) (leaseId : String) :
    record.slotsOf leaseId ≤ state.leaseSlots leaseId := by
  rw [h.perLease, BTreeMap.sum_erase _ hget]
  apply Nat.le_add_right

theorem Balanced.not_saturates (h : state.Balanced) (id : Nat) : ¬ state.Saturates id := by
  rintro ⟨record, hget, htotal | ⟨slots, hslots, hlease⟩⟩
  . have hle := h.slots_le hget
    omega
  . have hle := h.slotsOf_le hget record.leaseId
    unfold leaseSlots ReservationRecord.slotsOf at hle
    rw [hslots, if_pos rfl, Option.getD_some] at hle
    omega

section Release

variable {id : Nat} {record : ReservationRecord}

theorem releaseReservation_of_none (h : state.reservations[id]? = none) :
    state.releaseReservation id = state := by
  unfold releaseReservation
  rw [h]

theorem leaseSlots_releaseReservation (h : state.reservations[id]? = some record) :
    (state.releaseReservation id).leaseSlots leaseId
      = state.leaseSlots leaseId - record.slotsOf leaseId := by
  unfold leaseSlots releaseReservation ReservationRecord.slotsOf
  rw [h]
  dsimp only
  by_cases heq : record.leaseId = leaseId
  . subst heq
    rw [if_pos rfl]
    cases hslots : state.leaseReservedSlots[record.leaseId]? with
    | none => simp [hslots]
    | some slots =>
      dsimp only
      split
      next hzero => simp [hzero]
      . simp
  . rw [if_neg heq, Nat.sub_zero]
    cases hslots : state.leaseReservedSlots[record.leaseId]? with
    | none => rfl
    | some slots =>
      dsimp only
      split
      . rw [BTreeMap.getElem?_erase_of_ne _ (Ne.symm heq)]
      . rw [BTreeMap.getElem?_insert_of_ne _ _ (Ne.symm heq)]

theorem reservedSlots_releaseReservation (h : state.reservations[id]? = some record) :
    (state.releaseReservation id).reservedSlots = state.reservedSlots - record.slots := by
  unfold releaseReservation
  rw [h]

theorem reservations_releaseReservation (state : ControllerState) (id : Nat) :
    (state.releaseReservation id).reservations = state.reservations.erase id := by
  unfold releaseReservation
  cases h : state.reservations[id]? with
  | none =>
    apply Std.ExtTreeMap.ext_getElem?
    intro key
    by_cases hkey : key = id
    . subst hkey
      simp [h]
    . rw [BTreeMap.getElem?_erase_of_ne _ hkey]
  | some record => rfl

end Release

theorem Balanced.releaseReservation (h : state.Balanced) (id : Nat) :
    (state.releaseReservation id).Balanced := by
  cases hget : state.reservations[id]? with
  | none =>
    rw [releaseReservation_of_none hget]
    exact h
  | some record =>
    constructor
    . rw [reservedSlots_releaseReservation hget, reservations_releaseReservation, h.total,
        BTreeMap.sum_erase _ hget]
      apply Nat.add_sub_cancel_left
    . intro leaseId
      rw [leaseSlots_releaseReservation hget, reservations_releaseReservation, h.perLease,
        BTreeMap.sum_erase _ hget]
      apply Nat.add_sub_cancel_left
    . rw [reservedSlots_releaseReservation hget]
      exact Nat.le_trans (Nat.sub_le _ _) h.total_le
    . intro leaseId
      have hconfig : (state.releaseReservation id).config = state.config := by
        obtain ⟨_, _, _, heq⟩ := state.releaseReservation_frame id
        rw [heq]
      rw [leaseSlots_releaseReservation hget, hconfig]
      exact Nat.le_trans (Nat.sub_le _ _) (h.leaseSlots_le leaseId)
    . intro id' record' hget'
      have hnext : (state.releaseReservation id).nextReservation = state.nextReservation := by
        obtain ⟨_, _, _, heq⟩ := state.releaseReservation_frame id
        rw [heq]
      rw [reservations_releaseReservation] at hget'
      rw [hnext]
      by_cases heq : id' = id
      . subst heq
        simp at hget'
      . rw [BTreeMap.getElem?_erase_of_ne _ heq] at hget'
        exact h.id_le id' record' hget'

section Prune

theorem reservations_foldl_releaseReservation {ids : List Nat} {id : Nat} :
    (ids.foldl releaseReservation state).reservations[id]? = some record
      ↔ state.reservations[id]? = some record ∧ id ∉ ids := by
  induction ids generalizing state with
  | nil => simp
  | cons first ids ih =>
    rw [List.foldl_cons, ih, reservations_releaseReservation, List.mem_cons, not_or]
    by_cases heq : id = first
    . subst heq
      simp
    . rw [BTreeMap.getElem?_erase_of_ne _ heq]
      simp [heq]

theorem mem_expiredReservations {id : Nat} :
    id ∈ state.expiredReservations expired
      ↔ ∃ record, state.reservations[id]? = some record ∧ record.leaseId ∈ expired := by
  unfold expiredReservations
  simp [Std.ExtTreeMap.mem_toList_iff_getElem?_eq_some]

def releases (state : ControllerState) : List Nat → List (ControllerState × Nat)
  | [] => []
  | id :: ids => (state, id) :: (state.releaseReservation id).releases ids

def pruneReleases (state : ControllerState) (nowMs : Nat) : List (ControllerState × Nat) :=
  let expired := state.expiredLeases nowMs
  if expired.isEmpty then
    []
  else
    (state.dropLeases expired).releases (state.expiredReservations expired)

theorem Balanced.releases (h : state.Balanced) (ids : List Nat) :
    ∀ call ∈ state.releases ids, call.1.Balanced := by
  induction ids generalizing state with
  | nil =>
    intro call hmem
    cases hmem
  | cons id ids ih =>
    intro call hmem
    cases List.mem_cons.mp hmem with
    | inl heq =>
      rw [heq]
      exact h
    | inr hmem => exact ih (h.releaseReservation id) call hmem

theorem Balanced.foldl_releaseReservation (h : state.Balanced) (ids : List Nat) :
    (ids.foldl ControllerState.releaseReservation state).Balanced := by
  induction ids generalizing state with
  | nil => exact h
  | cons id ids ih => exact ih (h.releaseReservation id)

theorem Balanced.dropLeases (h : state.Balanced) (expired : List String) :
    (state.dropLeases expired).Balanced := by
  exact ⟨h.total, h.perLease, h.total_le, h.leaseSlots_le, h.id_le⟩

theorem Balanced.pruneReleases (h : state.Balanced) (nowMs : Nat) :
    ∀ call ∈ state.pruneReleases nowMs, call.1.Balanced := by
  unfold ControllerState.pruneReleases
  dsimp only
  split
  . intro call hmem
    cases hmem
  . apply Balanced.releases
    exact h.dropLeases _

theorem Balanced.pruneExpired (h : state.Balanced) (nowMs : Nat) :
    (state.pruneExpired nowMs).Balanced := by
  unfold ControllerState.pruneExpired
  dsimp only
  split
  . exact h
  . apply Balanced.foldl_releaseReservation
    exact h.dropLeases _

end Prune

structure Accounted (state : ControllerState) : Prop extends state.Balanced where
  budget : ∀ (leaseId : String) (lease : Lease), state.leases[leaseId]? = some lease
    → lease.maximumConcurrency = state.config.defaultBudget.maxConcurrency
  tracked : ∀ (id : Nat) (record : ReservationRecord), state.reservations[id]? = some record
    → ∃ lease, state.leases[record.leaseId]? = some lease

theorem Accounted.pruneExpired (h : state.Accounted) (nowMs : Nat) :
    (state.pruneExpired nowMs).Accounted := by
  refine ⟨h.toBalanced.pruneExpired nowMs, ?_, ?_⟩
  . obtain ⟨_, _, _, _, _, _, heq, hleases⟩ := state.pruneExpired_frame nowMs
    rw [heq]
    intro leaseId lease hget
    exact h.budget leaseId lease (hleases leaseId lease hget)
  . unfold ControllerState.pruneExpired
    dsimp only
    split
    . exact h.tracked
    . intro id record hget
      rw [leases_foldl_releaseReservation]
      obtain ⟨hget, hlive⟩ := reservations_foldl_releaseReservation.mp hget
      obtain ⟨lease, hlease⟩ := h.tracked id record hget
      refine ⟨lease, BTreeMap.getElem?_filter.mpr ⟨hlease, ?_⟩⟩
      rw [decide_eq_true_eq]
      intro hexpired
      exact hlive (mem_expiredReservations.mpr ⟨record, hget, hexpired⟩)

theorem Accounted.issued (h : state.Accounted) (lease : Lease) (number : Nat)
    (hbudget : lease.maximumConcurrency = state.config.defaultBudget.maxConcurrency) :
    Accounted { state with
      nextLease := number
      leases := state.leases.insert lease.leaseId lease } := by
  refine ⟨⟨h.total, h.perLease, h.total_le, h.leaseSlots_le, h.id_le⟩, ?_, ?_⟩
  . intro leaseId lease' hget
    by_cases heq : leaseId = lease.leaseId
    . subst heq
      rw [BTreeMap.getElem?_insert_self] at hget
      cases hget
      exact hbudget
    . rw [BTreeMap.getElem?_insert_of_ne _ _ heq] at hget
      exact h.budget leaseId lease' hget
  . intro id record hget
    by_cases heq : record.leaseId = lease.leaseId
    . refine ⟨lease, ?_⟩
      rw [heq]
      apply BTreeMap.getElem?_insert_self
    . obtain ⟨lease', hlease⟩ := h.tracked id record hget
      refine ⟨lease', ?_⟩
      rw [BTreeMap.getElem?_insert_of_ne _ _ heq]
      exact hlease

theorem leaseSlots_reserved {state : ControllerState} {slots : Nat} :
    (state.reserved lease slots).leaseSlots leaseId
      = (if lease.leaseId = leaseId then slots else 0) + state.leaseSlots leaseId := by
  unfold leaseSlots reserved
  by_cases heq : lease.leaseId = leaseId
  . subst heq
    rw [BTreeMap.getElem?_insert_self, if_pos rfl, Option.getD_some, Nat.add_comm]
  . rw [BTreeMap.getElem?_insert_of_ne _ _ (Ne.symm heq), if_neg heq, Nat.zero_add]

theorem Accounted.reserved {lease : Lease} {slots : Nat} (h : state.Accounted)
    (hlease : state.leases[lease.leaseId]? = some lease)
    (htotal : state.reservedSlots + slots ≤ maxActiveAdmissionSlots)
    (hbudget : state.leaseSlots lease.leaseId + slots ≤ lease.maximumConcurrency) :
    (state.reserved lease slots).Accounted := by
  have hfresh : state.reservations[state.nextReservation + 1]? = none := by
    cases hget : state.reservations[state.nextReservation + 1]? with
    | none => rfl
    | some record => exact absurd (h.id_le _ record hget) (Nat.not_succ_le_self _)
  refine ⟨⟨?_, ?_, htotal, ?_, ?_⟩, h.budget, ?_⟩
  . show state.reservedSlots + slots = _
    unfold ControllerState.reserved
    rw [BTreeMap.sum_insert _ _ hfresh, h.total, Nat.add_comm]
  . intro leaseId
    rw [leaseSlots_reserved, h.perLease]
    unfold ControllerState.reserved
    rw [BTreeMap.sum_insert _ _ hfresh]
    rfl
  . intro leaseId
    rw [leaseSlots_reserved]
    split
    next heq =>
      subst heq
      have hconfig := h.budget _ lease hlease
      show _ ≤ state.config.defaultBudget.maxConcurrency
      omega
    . rw [Nat.zero_add]
      exact h.leaseSlots_le leaseId
  . intro id record hget
    show id ≤ state.nextReservation + 1
    unfold ControllerState.reserved at hget
    by_cases heq : id = state.nextReservation + 1
    . omega
    . rw [BTreeMap.getElem?_insert_of_ne _ _ heq] at hget
      exact Nat.le_succ_of_le (h.id_le id record hget)
  . intro id record hget
    unfold ControllerState.reserved at hget
    by_cases heq : id = state.nextReservation + 1
    . subst heq
      rw [BTreeMap.getElem?_insert_self] at hget
      cases hget
      exact ⟨lease, hlease⟩
    . rw [BTreeMap.getElem?_insert_of_ne _ _ heq] at hget
      exact h.tracked id record hget

theorem Accounted.releaseReservation (h : state.Accounted) (id : Nat) :
    (state.releaseReservation id).Accounted := by
  refine ⟨h.toBalanced.releaseReservation id, ?_, ?_⟩
  . obtain ⟨_, _, _, heq⟩ := state.releaseReservation_frame id
    rw [heq]
    exact h.budget
  . intro id' record hget
    rw [reservations_releaseReservation, Std.ExtTreeMap.getElem?_erase] at hget
    have hleases : (state.releaseReservation id).leases = state.leases := by
      obtain ⟨_, _, _, heq⟩ := state.releaseReservation_frame id
      rw [heq]
    rw [hleases]
    split at hget
    . cases hget
    . exact h.tracked id' record hget

theorem accounted_of_empty (hslots : state.reservedSlots = 0) (hreservations : state.reservations = ∅)
    (hleaseSlots : state.leaseReservedSlots = ∅) (hleases : state.leases = ∅) :
    state.Accounted := by
  have hempty : ∀ leaseId, state.leaseSlots leaseId = 0 := by
    intro leaseId
    unfold leaseSlots
    rw [hleaseSlots]
    simp
  refine ⟨⟨?_, ?_, ?_, ?_, ?_⟩, ?_, ?_⟩
  . rw [hslots, hreservations, BTreeMap.sum_empty]
  . intro leaseId
    rw [hempty, hreservations, BTreeMap.sum_empty]
  . rw [hslots]
    apply Nat.zero_le
  . intro leaseId
    rw [hempty]
    apply Nat.zero_le
  . intro id record hget
    rw [hreservations] at hget
    simp at hget
  . intro leaseId lease hget
    rw [hleases] at hget
    simp at hget
  . intro id record hget
    rw [hreservations] at hget
    simp at hget

theorem Move.accounted (hmove : state.Move state') (h : state.Accounted) : state'.Accounted := by
  cases hmove with
  | pruned nowMs => exact h.pruneExpired nowMs
  | bookkeeping _ _ _ | numbered =>
    exact ⟨⟨h.total, h.perLease, h.total_le, h.leaseSlots_le, h.id_le⟩, h.budget, h.tracked⟩
  | issued key nowMs expiresAtMs =>
    exact h.issued (state.freshLease key (state.nextLease + 1) nowMs expiresAtMs) _ rfl
  | reserved hlease htotal hbudget => exact h.reserved hlease htotal hbudget
  | released reservationId => exact h.releaseReservation reservationId

end ControllerState

namespace System

open Json Machine ControllerState

theorem new_eq_ok {mode : ControlMode} {controlEpoch : Nat} {config : ControllerConfig}
    {limits : ControllerLimits} {shadowPolicy : ShadowPolicy} {system : System}
    (h : System.new mode controlEpoch config limits shadowPolicy = .ok system) :
    system.state = ⟨mode, controlEpoch, config, shadowPolicy, ∅, 0, false, limits, ∅, ∅, 0, 0, ∅, ∅⟩
      ∧ system.registry = ⟨controlEpoch, defaultMaxModuleInstances, ∅⟩
      ∧ system.audit = ⟨controlEpoch, defaultMaxAuditEntries, 0, [], none⟩
      ∧ system.tokens = [] := by
  unfold System.new at h
  obtain ⟨_, h⟩ := rejectIf_bind_eq_ok.mp h
  obtain ⟨_, _, h⟩ := Except.bind_eq_ok.mp h
  obtain ⟨_, _, h⟩ := Except.bind_eq_ok.mp h
  obtain ⟨_, _, h⟩ := Except.bind_eq_ok.mp h
  obtain ⟨_, h⟩ := rejectIf_bind_eq_ok.mp h
  obtain ⟨registry, hregistry, h⟩ := Except.bind_eq_ok.mp h
  obtain ⟨audit, haudit, h⟩ := Except.bind_eq_ok.mp h
  cases h
  refine ⟨rfl, ?_, ?_, rfl⟩
  . unfold ModuleRegistryState.new at hregistry
    split at hregistry
    . cases hregistry
    . split at hregistry
      . cases hregistry
      . cases hregistry
        rfl
  . unfold DecisionAuditState.new at haudit
    split at haudit
    . cases haudit
    . split at haudit
      . cases haudit
      . cases haudit
        rfl

variable (codec : FloatCodec)

theorem slot_accounting {mode : ControlMode} {controlEpoch : Nat} {config : ControllerConfig}
    {limits : ControllerLimits} {shadowPolicy : ShadowPolicy} {system : System}
    (hnew : System.new mode controlEpoch config limits shadowPolicy = .ok system) (ops : List Op)
    {state : ControllerState} (hstate : state = (run (step codec) system ops).state) :
    state.reservedSlots = state.reservations.sum ReservationRecord.slots
      ∧ (∀ leaseId, state.leaseSlots leaseId = state.reservations.sum (·.slotsOf leaseId))
      ∧ (∀ (leaseId : String) (lease : Lease), state.leases[leaseId]? = some lease
        → state.leaseSlots leaseId ≤ lease.maximumConcurrency)
      ∧ (∀ (id : Nat) (record : ReservationRecord), state.reservations[id]? = some record
        → ∃ lease, state.leases[record.leaseId]? = some lease)
      ∧ state.reservedSlots ≤ maxActiveAdmissionSlots
      ∧ (∀ id, ¬ state.Saturates id)
      ∧ (∀ nowMs, ∀ call ∈ state.pruneReleases nowMs, ¬ call.1.Saturates call.2) := by
  have haccounted : state.Accounted := by
    rw [hstate]
    apply run_invariant (P := fun system : System => system.state.Accounted)
    . obtain ⟨hinit, _⟩ := new_eq_ok hnew
      rw [hinit]
      exact accounted_of_empty rfl rfl rfl rfl
    . intro system op h
      exact (step_transition codec system op).state_rule h (fun _ _ h hmove => hmove.accounted h)
        fun _ _ _ _ => accounted_of_empty rfl rfl rfl rfl
  refine ⟨haccounted.total, haccounted.perLease, ?_, haccounted.tracked, haccounted.total_le,
    haccounted.not_saturates, ?_⟩
  . intro leaseId lease hget
    rw [haccounted.budget leaseId lease hget]
    exact haccounted.leaseSlots_le leaseId
  . intro nowMs call hmem
    exact (haccounted.pruneReleases nowMs call hmem).not_saturates call.2

section Sample

def sampleCodec : FloatCodec := ⟨fun _ => [48, 46, 48], fun _ => none, fun _ => by decide⟩

def sampleConfig : ControllerConfig := ⟨100, 1000, ⟨8, 32, 10000, 1000000, 1000000⟩⟩

def sampleSystem : System where
  state := ⟨.shadow, 1, sampleConfig, .default, ∅, 0, false, .default, ∅, ∅, 0, 0, ∅, ∅⟩
  registry := ⟨1, 4096, ∅⟩
  audit := ⟨1, 4096, 0, [], none⟩
  tokens := []

def sampleKey : ModuleInstanceKey := ⟨"module-1", "instance-1", "partition-1"⟩

def sampleLease : Lease :=
  ⟨leaseSchema, 1, "lease-1-1", "module-1", "instance-1", "partition-1", sampleConfig.defaultBudget, 8,
    0, "epoch-1", 10, 110⟩

def sampleOps : List Op :=
  [.registerInstance "module-1" "instance-1" "partition-1" "v1" 10, .issueLease sampleKey 10 none,
    .reserveAdmission sampleLease 20 5 true, .reserveAdmission sampleLease 20 4 true]

set_option maxRecDepth 10000

theorem new_sampleSystem :
    System.new .shadow 1 sampleConfig .default .default = .ok sampleSystem := by
  unfold System.new
  rw [ShadowPolicy.validate_default]
  rfl

theorem slot_accounting_sample :
    (run (step sampleCodec) sampleSystem sampleOps).state.leaseSlots "lease-1-1" = 5
      ∧ (run (step sampleCodec) sampleSystem sampleOps).state.reservations.sum
          ReservationRecord.slots = 5 := by
  have haccounting := slot_accounting sampleCodec new_sampleSystem sampleOps rfl
  refine ⟨rfl, ?_⟩
  rw [← haccounting.1]
  rfl

end Sample

end System

end ControlPlane
