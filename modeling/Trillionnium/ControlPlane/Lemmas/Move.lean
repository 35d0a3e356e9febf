import Trillionnium.ControlPlane.Impl.System

namespace ControlPlane

open Json Machine Relation

variable {state : ControllerState}

theorem Lease.validate_eq_ok {lease : Lease} (h : lease.validate nowMs expectedEpoch token = .ok ())
    : lease.controlEpoch = expectedEpoch ∧ nowMs < lease.expiresAtMs := by
  unfold validate at h
  obtain ⟨_, h⟩ := rejectIf_bind_eq_ok.mp h
  obtain ⟨_, _, h⟩ := Except.bind_eq_ok.mp h
  obtain ⟨_, _, h⟩ := Except.bind_eq_ok.mp h
  obtain ⟨hepoch, h⟩ := rejectIf_bind_eq_ok.mp h
  obtain ⟨_, h⟩ := rejectIf_bind_eq_ok.mp h
  obtain ⟨_, h⟩ := rejectIf_bind_eq_ok.mp h
  obtain ⟨hexpired, _⟩ := rejectIf_bind_eq_ok.mp h
  refine ⟨not_not.mp hepoch, ?_⟩
  omega

namespace ControllerState

variable {state : ControllerState}

theorem validateAdmission_eq_ok
    (h : state.validateAdmission lease nowMs requestedSlots newEffect = .ok decision) :
    lease.controlEpoch = state.controlEpoch
      ∧ nowMs < lease.expiresAtMs
      ∧ state.leases[lease.leaseId]? = some lease := by
  unfold validateAdmission at h
  obtain ⟨_, hvalid, h⟩ := Except.bind_eq_ok.mp h
  obtain ⟨hepoch, hexpires⟩ := Lease.validate_eq_ok hvalid
  split at h
  . cases h
  next issued hissued =>
    obtain ⟨hmatch, _⟩ := rejectIf_bind_eq_ok.mp h
    rw [not_not.mp hmatch] at hissued
    exact ⟨hepoch, hexpires, hissued⟩

def reserved (state : ControllerState) (lease : Lease) (slots : Nat) : ControllerState :=
  { state with
    nextReservation := state.nextReservation + 1
    reservedSlots := state.reservedSlots + slots
    leaseReservedSlots := state.leaseReservedSlots.insert lease.leaseId
      (state.leaseReservedSlots[lease.leaseId]?.getD 0 + slots)
    reservations := state.reservations.insert (state.nextReservation + 1)
      ⟨lease.leaseId, lease.controlEpoch, slots⟩ }

theorem reserve_eq_ok {lease : Lease} {slots : Nat} {decision : AdmissionDecision}
    {token : AdmissionReservation} {state' : ControllerState}
    (h : state.reserve lease slots decision = .ok (token, state')) :
    state' = state.reserved lease slots
      ∧ token = ⟨state.nextReservation + 1, lease.leaseId, lease.controlEpoch, slots, lease, decision,
          false⟩
      ∧ state.reservedSlots + slots ≤ maxActiveAdmissionSlots
      ∧ state.leaseReservedSlots[lease.leaseId]?.getD 0 + slots ≤ lease.maximumConcurrency := by
  unfold reserve at h
  split at h
  . cases h
  next next hnext =>
    obtain ⟨rfl, _⟩ := Checked.add_eq_some.mp hnext
    split at h
    . cases h
    next nextTotal htotal =>
      obtain ⟨rfl, _⟩ := Checked.add_eq_some.mp htotal
      split at h
      . cases h
      next hbound =>
        split at h
        . cases h
        next nextLeaseReserved hlease =>
          obtain ⟨rfl, _⟩ := Checked.add_eq_some.mp hlease
          split at h
          . cases h
          next hbudget =>
            cases h
            exact ⟨rfl, rfl, Nat.le_of_not_gt hbound, Nat.le_of_not_gt hbudget⟩

def rotated (state : ControllerState) (nextEpoch : Nat) : ControllerState :=
  { state with
    controlEpoch := nextEpoch
    nextLease := 0
    leases := ∅
    observations := ∅
    shadowRecommendations := ∅
    reservedSlots := 0
    reservations := ∅
    leaseReservedSlots := ∅
    outage := false }

inductive Move (state : ControllerState) : ControllerState → Prop where
  | bookkeeping (shadowRecommendations : ShadowHistory)
      (observations : BTreeMap ModuleInstanceKey ModuleObservation) (outage : Bool) :
    Move state { state with shadowRecommendations, observations, outage }
  | pruned (nowMs : Nat) : Move state (state.pruneExpired nowMs)
  | numbered : Move state { state with nextLease := state.nextLease + 1 }
  | issued (key : ModuleInstanceKey) (nowMs expiresAtMs : Nat) :
    Move state { state with
      nextLease := state.nextLease + 1
      leases := state.leases.insert (leaseIdOf state.controlEpoch (state.nextLease + 1))
        (state.freshLease key (state.nextLease + 1) nowMs expiresAtMs) }
  | reserved {lease : Lease} {slots : Nat} (hlease : state.leases[lease.leaseId]? = some lease)
      (htotal : state.reservedSlots + slots ≤ maxActiveAdmissionSlots)
      (hbudget : state.leaseReservedSlots[lease.leaseId]?.getD 0 + slots
        ≤ lease.maximumConcurrency) :
    Move state (state.reserved lease slots)
  | released (reservationId : Nat) : Move state (state.releaseReservation reservationId)

abbrev Moves : ControllerState → ControllerState → Prop := ReflTransGen Move

theorem moves_insertLease {key : ModuleInstanceKey} :
    Moves state (state.insertLease key nowMs ttl).2 := by
  unfold insertLease
  split
  . exact .refl
  . split
    . exact .refl
    next nextLease hnext =>
      obtain ⟨rfl, _⟩ := Checked.add_eq_some.mp hnext
      split
      . exact .single .numbered
      next expiresAtMs _ =>
        dsimp only
        split
        . exact .single .numbered
        . exact .single (.issued key nowMs expiresAtMs)

theorem moves_issueLease {key : ModuleInstanceKey} :
    Moves state (state.issueLease key nowMs requestedTtlMs).2 := by
  unfold issueLease
  split
  . exact .refl
  . apply ReflTransGen.head (.pruned nowMs)
    apply moves_insertLease

theorem moves_shadowDecision :
    Moves state (state.shadowDecision codec generatedAtMs registry true).2 := by
  unfold shadowDecision
  dsimp only
  split
  . exact .refl
  . split
    . exact .refl
    . exact .single (.bookkeeping _ _ _)

theorem moves_observe {observation : ModuleObservation}
    (h : state.observe observation registry = .ok state') :
    observation.controlEpoch = state.controlEpoch ∧ Moves state state' := by
  unfold observe at h
  obtain ⟨_, _, h⟩ := Except.bind_eq_ok.mp h
  split at h
  . cases h
  . obtain ⟨_, h⟩ := rejectIf_bind_eq_ok.mp h
    obtain ⟨hepoch, h⟩ := rejectIf_bind_eq_ok.mp h
    obtain ⟨_, _, h⟩ := Except.bind_eq_ok.mp h
    obtain ⟨_, _, h⟩ := Except.bind_eq_ok.mp h
    obtain ⟨_, h⟩ := rejectIf_bind_eq_ok.mp h
    refine ⟨not_not.mp hepoch, ?_⟩
    dsimp only at h
    split at h
    . obtain ⟨_, h⟩ := Except.error_ite_eq_ok.mp h
      cases h
      exact .single (.bookkeeping _ _ _)
    . obtain ⟨_, h⟩ := Except.error_ite_eq_ok.mp h
      split at h
      . split at h
        . cases h
          exact .refl
        . cases h
      . cases h
        exact .single (.bookkeeping _ _ _)

theorem rotateEpoch_eq_ok (h : state.rotateEpoch nextEpoch = .ok state') :
    state.controlEpoch < nextEpoch ∧ state' = state.rotated nextEpoch := by
  unfold rotateEpoch at h
  split at h
  . cases h
  next hlt =>
    cases h
    exact ⟨Nat.lt_of_not_ge hlt, rfl⟩

theorem releaseReservation_frame (state : ControllerState) (id : Nat) :
    ∃ reservedSlots reservations leaseReservedSlots,
      state.releaseReservation id
        = { state with reservedSlots, reservations, leaseReservedSlots } := by
  unfold releaseReservation
  split
  . exact ⟨_, _, _, rfl⟩
  . exact ⟨_, _, _, rfl⟩

theorem foldl_releaseReservation_frame (state : ControllerState) (ids : List Nat) :
    ∃ reservedSlots reservations leaseReservedSlots,
      ids.foldl releaseReservation state
        = { state with reservedSlots, reservations, leaseReservedSlots } := by
  induction ids generalizing state with
  | nil => exact ⟨_, _, _, rfl⟩
  | cons id ids ih =>
    obtain ⟨_, _, _, hfirst⟩ := state.releaseReservation_frame id
    obtain ⟨_, _, _, hrest⟩ := ih (state.releaseReservation id)
    rw [List.foldl_cons, hrest, hfirst]
    exact ⟨_, _, _, rfl⟩

theorem leases_foldl_releaseReservation (state : ControllerState) (ids : List Nat) :
    (ids.foldl releaseReservation state).leases = state.leases := by
  obtain ⟨_, _, _, heq⟩ := state.foldl_releaseReservation_frame ids
  rw [heq]

theorem pruneExpired_frame (state : ControllerState) (nowMs : Nat) :
    ∃ leases observations shadowRecommendations reservedSlots reservations leaseReservedSlots,
      state.pruneExpired nowMs
        = { state with leases, observations, shadowRecommendations, reservedSlots, reservations,
                       leaseReservedSlots }
      ∧ ∀ (leaseId : String) (lease : Lease), leases[leaseId]? = some lease
        → state.leases[leaseId]? = some lease := by
  unfold pruneExpired
  dsimp only
  split
  . exact ⟨_, _, _, _, _, _, rfl, fun _ _ => id⟩
  . obtain ⟨_, _, _, heq⟩ := foldl_releaseReservation_frame
      (state.dropLeases (state.expiredLeases nowMs))
      (state.expiredReservations (state.expiredLeases nowMs))
    rw [heq]
    exact ⟨_, _, _, _, _, _, rfl, fun _ _ h => (BTreeMap.getElem?_filter.mp h).1⟩

theorem mem_expiredLeases :
    leaseId ∈ state.expiredLeases nowMs
      ↔ ∃ lease, state.leases[leaseId]? = some lease ∧ lease.expiresAtMs ≤ nowMs := by
  unfold expiredLeases
  simp [Std.ExtTreeMap.mem_toList_iff_getElem?_eq_some]

theorem leases_pruneExpired {leaseId : String} {lease : Lease}
    (h : state.leases[leaseId]? = some lease) (hexpires : nowMs < lease.expiresAtMs) :
    (state.pruneExpired nowMs).leases[leaseId]? = some lease := by
  unfold pruneExpired
  dsimp only
  split
  . exact h
  . rw [leases_foldl_releaseReservation]
    apply BTreeMap.getElem?_filter.mpr
    refine ⟨h, ?_⟩
    rw [decide_eq_true_eq, mem_expiredLeases]
    rintro ⟨lease', hlease', hexpired⟩
    rw [h] at hlease'
    cases hlease'
    omega

end ControllerState

end ControlPlane
