import Trillionnium.ControlPlane.Lemmas.Epoch

/-!
Fencing: what was issued under an epoch is refused after the rotation to the next one, and neither
leases nor reservations share an identifier.
-/

namespace ControlPlane

open Json Machine

def Involves (epoch : Nat) (op : Op) (out : Answer) : Prop :=
  (op.epoch? = some epoch ∧ out.error? = none) ∨ out.epoch? = some epoch

namespace ControllerState

variable {state : ControllerState}

theorem leaseIdOf_inj (h : leaseIdOf epoch number = leaseIdOf epoch' number') :
    epoch = epoch' ∧ number = number' := by
  have hdash : ∀ n : Nat, '-' ∉ Nat.toDigits 10 n := by
    intro n hmem
    have := Nat.isDigit_of_mem_toDigits (by omega) (by omega) hmem
    simp at this
  have hvalue : ∀ {n n' : Nat}, Nat.toDigits 10 n = Nat.toDigits 10 n' → n = n' := by
    intro n n' hdigits
    rw [← Nat.ofDigitChars_ten_toDigits (n := n), hdigits, Nat.ofDigitChars_ten_toDigits]
  have hlist := congrArg String.toList h
  simp only [leaseIdOf, toString, String.toList_append, Nat.toList_repr, List.append_assoc] at hlist
  have hdigits := (List.append_cancel_left hlist)
  obtain ⟨hepoch, _, hnumber⟩ := (List.append_cons_inj_of_notMem (hdash _) (hdash _)).mp hdigits
  exact ⟨hvalue hepoch, hvalue hnumber⟩

end ControllerState

namespace System

open ControllerState

variable {codec : FloatCodec} {system : System}

variable {system' : System} {epoch : Nat} {op : Op}

theorem reserveAdmission_eq_ok
    (h : system.reserveAdmission lease nowMs requestedSlots newEffect = (.ok token, system')) :
    lease.controlEpoch = system.state.controlEpoch
      ∧ token.controlEpoch = system.state.controlEpoch
      ∧ token.reservationId = system.state.nextReservation + 1
      ∧ system'.state.nextReservation = system.state.nextReservation + 1 := by
  have hreserves := system.reserves_reserveAdmission lease nowMs requestedSlots newEffect
  rw [h] at hreserves
  obtain ⟨_, _, _, _, _, _, hpruned, _⟩ := system.state.pruneExpired_frame nowMs
  cases hreserves with
  | granted hepoch _ hid htoken =>
    rw [hpruned] at hid
    refine ⟨hepoch, htoken.trans hepoch, hid, ?_⟩
    rw [hpruned]
    rfl

theorem issueLease_eq_ok {key : ModuleInstanceKey}
    (h : system.issueLease key nowMs requestedTtlMs = (.ok lease, system')) :
    lease.controlEpoch = system.state.controlEpoch
      ∧ lease.leaseId = leaseIdOf system.state.controlEpoch (system.state.nextLease + 1)
      ∧ system'.state.controlEpoch = system.state.controlEpoch
      ∧ system'.state.nextLease = system.state.nextLease + 1 := by
  unfold issueLease at h
  split at h
  . cases h
  . rcases hissue : system.state.issueLease key nowMs requestedTtlMs with ⟨result, state⟩
    rw [hissue] at h
    cases h
    exact ControllerState.issueLease_eq_ok hissue

theorem current_of_involves (h : Involves epoch op (system.step codec op).2) :
    system.Current epoch := by
  have hsteps := system.steps_step codec op
  rcases h with ⟨hop, herror⟩ | hout
  . have haccepted := hsteps.accepted herror
    rw [hop] at haccepted
    exact haccepted
  . have hissued := hsteps.issued
    rw [hout] at hissued
    exact hissued

section Run

variable {ops : List Op}

variable {i j r nextEpoch nowMs index : Nat} {key : ModuleInstanceKey} {lease : Lease}
  {newEffect : Bool} {token : AdmissionReservation}

theorem before_grows (codec : FloatCodec) (system : System) (ops : List Op) (hij : i ≤ j) :
    (before (step codec) system ops i).Grows (before (step codec) system ops j) := by
  apply before_rel Grows.refl Grows.trans _ hij
  intro system op
  exact (system.step_transition codec op).grows

theorem rotation (h : At (step codec) system ops r (.rotateEpoch nextEpoch) (.done (.ok ()))) :
    (before (step codec) system ops r).rotateEpoch nextEpoch
      = .ok (before (step codec) system ops (r + 1)) := by
  obtain ⟨hop, hout⟩ := h
  obtain ⟨x, system', hresult, hnext⟩ := settle_eq_ok (by nofun) hout
  rw [before_succ hop, step, hnext]
  exact withUnit_eq_ok hresult

theorem before_fenced (hfenced : system.Fenced) {i : Nat} :
    (before (step codec) system ops i).Fenced := by
  apply before_invariant hfenced
  intro system op hfenced
  exact (system.step_transition codec op).fenced hfenced

section Rotation

variable (hrotation : At (step codec) system ops r (.rotateEpoch nextEpoch) (.done (.ok ())))
  (hrj : r < j)
include hrotation hrj

theorem lt_of_rotation (hir : i ≤ r) (hepoch : (before (step codec) system ops i).Current epoch)
    (hepoch' : (before (step codec) system ops j).Current epoch') : epoch < epoch' := by
  obtain ⟨hlt, hregistry, haudit, hnext⟩ := rotateEpoch_eq_ok (rotation hrotation)
  have hbefore := before_grows codec system ops hir
  have hafter := before_grows codec system ops hrj
  rw [hnext] at hafter
  have hle : epoch ≤ (before (step codec) system ops r).state.controlEpoch := by
    rcases hepoch with rfl | rfl | rfl
    . exact hbefore.control
    . rw [← hregistry]
      exact hbefore.registry
    . rw [← haudit]
      exact hbefore.audit
  have hge : nextEpoch ≤ epoch' := by
    rcases hepoch' with rfl | rfl | rfl
    . exact hafter.control
    . exact hafter.registry
    . exact hafter.audit
  omega

theorem refused_after_rotation (hir : i < r)
    (hi : Happens (step codec) system ops (Involves epoch) i)
    (hj : At (step codec) system ops j op out) (hop : op.epoch? = some epoch) :
    ∃ e, out.error? = some e := by
  obtain ⟨opi, hinvolves, _⟩ := hi.exists_step
  cases herror : out.error? with
  | some e => exact ⟨e, rfl⟩
  | none =>
    rw [← hj.2] at herror
    have hlt := lt_of_rotation hrotation hrj (Nat.le_of_lt hir) (current_of_involves hinvolves)
      (current_of_involves (.inl ⟨hop, herror⟩))
    exact absurd hlt (Nat.lt_irrefl epoch)

theorem registered_after_rotation (hbound : system.registry.Bound)
    (hget : (before (step codec) system ops j).registry.instances[key]? = some inst) :
    nextEpoch ≤ inst.controlEpoch := by
  have hbound : (before (step codec) system ops j).registry.Bound := by
    apply before_invariant (P := fun system : System => system.registry.Bound) hbound
    intro system op hbound
    exact (system.step_transition codec op).bound hbound
  obtain ⟨_, _, _, hnext⟩ := rotateEpoch_eq_ok (rotation hrotation)
  have hafter := (before_grows codec system ops hrj).registry
  rw [hnext] at hafter
  rw [hbound key inst hget]
  exact hafter

theorem reservation_of_stale_token (hfenced : system.Fenced)
    (hget : (before (step codec) system ops r).tokens[index]? = some token) :
    ∃ token', (before (step codec) system ops j).tokens[index]? = some token'
      ∧ (before (step codec) system ops j).state.reservations[token'.reservationId]? = none := by
  obtain ⟨token', hget', _, hepoch⟩ :=
    (before_grows codec system ops (Nat.le_of_lt hrj)).tokens index token hget
  refine ⟨token', hget', ?_⟩
  have hold := before_fenced hfenced token (List.mem_of_getElem? hget)
  have hnew := before_fenced hfenced token' (List.mem_of_getElem? hget')
  have hlt := lt_of_rotation hrotation hrj (Nat.le_refl r) (.inl rfl) (.inl rfl)
  cases hrecord : (before (step codec) system ops j).state.reservations[token'.reservationId]? with
  | none => rfl
  | some record =>
    have hcurrent := hnew.live record hrecord
    have hpast := hold.epoch
    omega

end Rotation

theorem issueLease_of_at
    (h : At (step codec) system ops i (.issueLease key nowMs ttl) (.lease (.ok lease))) :
    (before (step codec) system ops i).issueLease key nowMs ttl
      = (.ok lease, before (step codec) system ops (i + 1)) := by
  obtain ⟨hop, hout⟩ := h
  rw [before_succ hop]
  exact Prod.ext (Answer.lease.inj hout) rfl

theorem reserveAdmission_of_at {slots : Nat}
    (h : At (step codec) system ops i (.reserveAdmission lease nowMs slots newEffect) (.reservation (.ok token))) :
    (before (step codec) system ops i).reserveAdmission lease nowMs slots newEffect
      = (.ok token, before (step codec) system ops (i + 1)) := by
  obtain ⟨hop, hout⟩ := h
  rw [before_succ hop]
  exact Prod.ext (Answer.reservation.inj hout) rfl

theorem leaseId_ne (hij : i < j)
    (hi : At (step codec) system ops i (.issueLease key nowMs ttl) (.lease (.ok lease)))
    (hj : At (step codec) system ops j (.issueLease key' nowMs' ttl') (.lease (.ok lease'))) :
    lease.leaseId ≠ lease'.leaseId := by
  obtain ⟨_, hid, hepoch, hnext⟩ := issueLease_eq_ok (issueLease_of_at hi)
  obtain ⟨_, hid', _, _⟩ := issueLease_eq_ok (issueLease_of_at hj)
  have hlater : i + 1 ≤ j := hij
  have hgrows := before_grows codec system ops hlater
  intro heq
  rw [hid, hid'] at heq
  obtain ⟨hsame, hnumber⟩ := leaseIdOf_inj heq
  have hle := hgrows.nextLease (hsame.symm.trans hepoch.symm)
  omega

theorem reservationId_ne {slots : Nat} (hij : i < j)
    (hi : At (step codec) system ops i (.reserveAdmission lease nowMs slots newEffect) (.reservation (.ok token)))
    (hj : At (step codec) system ops j (.reserveAdmission lease' nowMs' slots' newEffect') (.reservation (.ok token')))
    : token.reservationId ≠ token'.reservationId := by
  obtain ⟨_, _, hid, hnext⟩ := reserveAdmission_eq_ok (reserveAdmission_of_at hi)
  obtain ⟨_, _, hid', _⟩ := reserveAdmission_eq_ok (reserveAdmission_of_at hj)
  have hlater : i + 1 ≤ j := hij
  have hle := (before_grows codec system ops hlater).nextReservation
  omega

theorem releaseToken_of_none (h : system.state.reservations[token.reservationId]? = none) :
    (system.releaseToken index token).state = system.state := by
  unfold releaseToken
  split
  . rfl
  . exact releaseReservation_of_none h

theorem validateToken_of_none (h : system.state.reservations[token.reservationId]? = none) :
    system.validateToken token nowMs newEffect
      = .error (.invalid "admission reservation is no longer active") := by
  unfold validateToken
  rw [h, if_pos (.inr (by nofun))]

end Run

theorem epoch_fencing (codec : FloatCodec) {mode : ControlMode} {controlEpoch : Nat}
    {config : ControllerConfig} {limits : ControllerLimits} {policy : ShadowPolicy}
    (hnew : System.new mode controlEpoch config limits policy = .ok system) (ops : List Op) :
    (∀ (i r j epoch nextEpoch : Nat) (op : Op) (out : Answer), i < r → r < j
      → Happens (step codec) system ops (Involves epoch) i
      → At (step codec) system ops r (.rotateEpoch nextEpoch) (.done (.ok ()))
      → At (step codec) system ops j op out
      → op.epoch? = some epoch
      → ∃ e, out.error? = some e)
    ∧ (∀ (r j nextEpoch : Nat) (key : ModuleInstanceKey) (inst : ModuleInstance), r < j
      → At (step codec) system ops r (.rotateEpoch nextEpoch) (.done (.ok ()))
      → (before (step codec) system ops j).registry.instances[key]? = some inst
      → nextEpoch ≤ inst.controlEpoch)
    ∧ (∀ (r j nextEpoch index : Nat) (token : AdmissionReservation), r < j
      → At (step codec) system ops r (.rotateEpoch nextEpoch) (.done (.ok ()))
      → (before (step codec) system ops r).tokens[index]? = some token
      → (∀ nowMs newEffect, ∃ e,
          ((before (step codec) system ops j).step codec
            (.validateToken index nowMs newEffect)).2.error? = some e)
        ∧ ((before (step codec) system ops j).step codec (.releaseToken index)).1.state
          = (before (step codec) system ops j).state
        ∧ ((before (step codec) system ops j).step codec (.dropToken index)).1.state
          = (before (step codec) system ops j).state)
    ∧ (∀ (i j : Nat) (key key' : ModuleInstanceKey) (nowMs nowMs' : Nat) (ttl ttl' : Option Nat)
        (lease lease' : Lease), i < j
      → At (step codec) system ops i (.issueLease key nowMs ttl) (.lease (.ok lease))
      → At (step codec) system ops j (.issueLease key' nowMs' ttl') (.lease (.ok lease'))
      → lease.leaseId ≠ lease'.leaseId)
    ∧ (∀ (i j : Nat) (lease lease' : Lease) (nowMs nowMs' slots slots' : Nat)
        (newEffect newEffect' : Bool) (token token' : AdmissionReservation), i < j
      → At (step codec) system ops i (.reserveAdmission lease nowMs slots newEffect)
          (.reservation (.ok token))
      → At (step codec) system ops j (.reserveAdmission lease' nowMs' slots' newEffect')
          (.reservation (.ok token'))
      → token.reservationId ≠ token'.reservationId) := by
  obtain ⟨_, hregistry, _, htokens⟩ := new_eq_ok hnew
  have hfenced : system.Fenced := by
    intro token hmem
    rw [htokens] at hmem
    cases hmem
  have hbound : system.registry.Bound := by
    intro key inst hget
    rw [hregistry] at hget
    simp at hget
  refine ⟨?_, ?_, ?_, ?_, ?_⟩
  . intro i r j epoch nextEpoch op out hir hrj hi hrotation hj hop
    exact refused_after_rotation hrotation hrj hir hi hj hop
  . intro r j nextEpoch key inst hrj hrotation hget
    exact registered_after_rotation hrotation hrj hbound hget
  . intro r j nextEpoch index token hrj hrotation hget
    obtain ⟨token', hget', hnone⟩ := reservation_of_stale_token hrotation hrj hfenced hget
    refine ⟨?_, ?_, ?_⟩
    . intro nowMs newEffect
      simp only [step, hget', validateToken_of_none hnone]
      exact ⟨_, rfl⟩
    . simp only [step, hget']
      exact releaseToken_of_none hnone
    . simp only [step, hget']
      exact releaseToken_of_none hnone
  . intro i j key key' nowMs nowMs' ttl ttl' lease lease' hij hi hj
    exact leaseId_ne hij hi hj
  . intro i j lease lease' nowMs nowMs' slots slots' newEffect newEffect' token token' hij hi hj
    exact reservationId_ne hij hi hj

section Sample

def sampleRotation : List Op :=
  [.registerInstance "module-1" "instance-1" "partition-1" "v1" 10, .issueLease sampleKey 10 none,
    .reserveAdmission sampleLease 20 5 true, .rotateEpoch 2, .admitLease sampleLease 30 1 true,
    .dropToken 0]

set_option maxRecDepth 10000

theorem epoch_fencing_sample :
    (∃ e, ((before (step sampleCodec) sampleSystem sampleRotation 4).step sampleCodec
        (.admitLease sampleLease 30 1 true)).2.error? = some e)
      ∧ ((before (step sampleCodec) sampleSystem sampleRotation 5).step sampleCodec
          (.dropToken 0)).1.state
        = (before (step sampleCodec) sampleSystem sampleRotation 5).state := by
  obtain ⟨hrefused, _, hstale, _⟩ := epoch_fencing sampleCodec new_sampleSystem sampleRotation
  constructor
  . apply hrefused 1 3 4 1 2 (.admitLease sampleLease 30 1 true) _ (by decide) (by decide)
    . exact ⟨_, _, ⟨rfl, rfl⟩, .inr rfl⟩
    . exact ⟨rfl, rfl⟩
    . exact ⟨rfl, rfl⟩
    . rfl
  . have hget : ∃ token,
        (before (step sampleCodec) sampleSystem sampleRotation 3).tokens[0]? = some token :=
      ⟨_, rfl⟩
    obtain ⟨token, hget⟩ := hget
    exact (hstale 3 5 2 0 token (by decide) ⟨rfl, rfl⟩ hget).2.2

end Sample

end System

end ControlPlane
