import Trillionnium.ControlPlane.Lemmas.Move

namespace ControlPlane

open Json Machine Except

def Op.epoch? : Op → Option Nat
  | .register inst => some inst.controlEpoch
  | .heartbeat _ controlEpoch _ _ => some controlEpoch
  | .setStatus _ controlEpoch _ _ _ => some controlEpoch
  | .unregister _ controlEpoch _ => some controlEpoch
  | .recordDecision decision _ => some decision.controlEpoch
  | .recordShadowDecision decision _ => some decision.controlEpoch
  | .observe observation => some observation.controlEpoch
  | .admitLease lease _ _ _ => some lease.controlEpoch
  | .reserveAdmission lease _ _ _ => some lease.controlEpoch
  | _ => none

def Answer.epoch? : Answer → Option Nat
  | .inst (.ok issued) => some issued.controlEpoch
  | .decision (.ok issued) => some issued.controlEpoch
  | .lease (.ok issued) => some issued.controlEpoch
  | .reservation (.ok issued) => some issued.controlEpoch
  | _ => none

namespace ControllerState

variable {state : ControllerState}

theorem issueLease_eq_ok {key : ModuleInstanceKey}
    (h : state.issueLease key nowMs requestedTtlMs = (.ok lease, state')) :
    lease.controlEpoch = state.controlEpoch
      ∧ lease.leaseId = leaseIdOf state.controlEpoch (state.nextLease + 1)
      ∧ state'.controlEpoch = state.controlEpoch
      ∧ state'.nextLease = state.nextLease + 1 := by
  unfold issueLease at h
  split at h
  . cases h
  . obtain ⟨_, _, _, _, _, _, hpruned, _⟩ := state.pruneExpired_frame nowMs
    rw [hpruned] at h
    unfold insertLease at h
    split at h
    . cases h
    . split at h
      . cases h
      next nextLease hnext =>
        obtain ⟨rfl, _⟩ := Checked.add_eq_some.mp hnext
        split at h
        . cases h
        . dsimp only at h
          split at h
          . cases h
          . cases h
            exact ⟨rfl, rfl, rfl, rfl⟩

theorem controlEpoch_shadowDecision
    (h : (state.shadowDecision codec generatedAtMs registry updateHistory).1 = .ok decision) :
    decision.controlEpoch = state.controlEpoch := by
  unfold shadowDecision at h
  dsimp only at h
  split at h
  . cases h
  . split at h
    . cases h
    . obtain ⟨_, _, h⟩ := bind_eq_ok.mp h
      obtain ⟨_, _, h⟩ := bind_eq_ok.mp h
      cases h
      rfl

end ControllerState

namespace ModuleRegistryState

variable {registry registry' : ModuleRegistryState}

def Bound (registry : ModuleRegistryState) : Prop :=
  ∀ (key : ModuleInstanceKey) (inst : ModuleInstance), registry.instances[key]? = some inst
    → inst.controlEpoch = registry.currentEpoch

structure Keeps (registry registry' : ModuleRegistryState) : Prop where
  epoch : registry'.currentEpoch = registry.currentEpoch
  bound : registry.Bound → registry'.Bound

theorem Keeps.refl (registry : ModuleRegistryState) : registry.Keeps registry := ⟨rfl, id⟩

theorem Keeps.trans {a : ModuleRegistryState} (h : a.Keeps b) (h' : b.Keeps c) : a.Keeps c := by
  exact ⟨h'.epoch.trans h.epoch, fun hbound => h'.bound (h.bound hbound)⟩

variable {inst : ModuleInstance} {nowMs controlEpoch : Nat} {key : ModuleInstanceKey}
  {token : String}

theorem keeps_insert {key : ModuleInstanceKey} (h : inst.controlEpoch = registry.currentEpoch) :
    registry.Keeps { registry with instances := registry.instances.insert key inst } := by
  refine ⟨rfl, ?_⟩
  intro hbound key' inst' hget
  rw [Std.ExtTreeMap.getElem?_insert] at hget
  split at hget
  . cases hget
    exact h
  . exact hbound key' inst' hget

theorem keeps_erase (registry : ModuleRegistryState) (key : ModuleInstanceKey) :
    registry.Keeps { registry with instances := registry.instances.erase key } := by
  refine ⟨rfl, ?_⟩
  intro hbound key' inst' hget
  rw [Std.ExtTreeMap.getElem?_erase] at hget
  split at hget
  . cases hget
  . exact hbound key' inst' hget

theorem keeps_registerLocked (h : registry.registerLocked inst = .ok registry') :
    registry.Keeps registry' ∧ inst.controlEpoch = registry.currentEpoch := by
  unfold registerLocked at h
  split at h
  . cases h
  next hepoch =>
    have hepoch := not_not.mp hepoch
    split at h
    . cases h
    . split at h
      . split at h
        . cases h
          exact ⟨.refl _, hepoch⟩
        . cases h
      . split at h
        . cases h
        . cases h
          exact ⟨keeps_insert hepoch, hepoch⟩

theorem keeps_registerInstance
    (h : registry.registerInstance moduleId moduleInstanceId partition version nowMs = .ok (inst, registry'))
    : registry.Keeps registry' ∧ inst.controlEpoch = registry.currentEpoch := by
  unfold registerInstance at h
  obtain ⟨_, _, h⟩ := bind_eq_ok.mp h
  obtain ⟨registry'', hregister, h⟩ := bind_eq_ok.mp h
  cases h
  exact keeps_registerLocked hregister

theorem controlEpoch_of_fenced (h : registry.fenced key controlEpoch token = .ok inst) :
    controlEpoch = registry.currentEpoch ∧ inst.controlEpoch = registry.currentEpoch := by
  unfold fenced at h
  split at h
  . cases h
  next hepoch =>
    split at h
    . cases h
    . split at h
      . cases h
      . split at h
        . cases h
        next hinst =>
          cases h
          simp only [not_or, not_not] at hinst
          rw [hinst.1]
          exact ⟨not_not.mp hepoch, not_not.mp hepoch⟩

theorem keeps_heartbeatLocked
    (h : registry.heartbeatLocked key controlEpoch token nowMs = .ok (inst, registry')) :
    registry.Keeps registry'
      ∧ controlEpoch = registry.currentEpoch
      ∧ inst.controlEpoch = registry.currentEpoch := by
  unfold heartbeatLocked at h
  obtain ⟨found, hfenced, h⟩ := bind_eq_ok.mp h
  obtain ⟨hepoch, hfound⟩ := controlEpoch_of_fenced hfenced
  split at h
  . cases h
  . cases h
    exact ⟨keeps_insert hfound, hepoch, hfound⟩

theorem keeps_setStatus {status : ModuleInstanceStatus}
    (h : registry.setStatus key controlEpoch token status nowMs = .ok registry') :
    registry.Keeps registry' ∧ controlEpoch = registry.currentEpoch := by
  unfold setStatus at h
  obtain ⟨_, _, h⟩ := bind_eq_ok.mp h
  obtain ⟨_, hheartbeat, h⟩ := bind_eq_ok.mp h
  obtain ⟨found, hfenced, h⟩ := bind_eq_ok.mp h
  obtain ⟨_, hfound⟩ := controlEpoch_of_fenced hfenced
  cases h
  obtain ⟨hkeeps, hepoch, _⟩ := keeps_heartbeatLocked hheartbeat
  exact ⟨hkeeps.trans (keeps_insert hfound), hepoch⟩

theorem keeps_unregister (h : registry.unregister key controlEpoch token = .ok (inst, registry')) :
    registry.Keeps registry'
      ∧ controlEpoch = registry.currentEpoch
      ∧ inst.controlEpoch = registry.currentEpoch := by
  unfold unregister at h
  obtain ⟨_, _, h⟩ := bind_eq_ok.mp h
  obtain ⟨_, hfenced, h⟩ := bind_eq_ok.mp h
  cases h
  exact ⟨keeps_erase _ key, controlEpoch_of_fenced hfenced⟩

theorem rotateEpoch_eq_ok (h : registry.rotateEpoch nextEpoch = .ok registry') :
    registry.currentEpoch < nextEpoch
      ∧ registry' = { registry with currentEpoch := nextEpoch, instances := ∅ } := by
  unfold rotateEpoch at h
  split at h
  . cases h
  next hlt =>
    cases h
    exact ⟨Nat.lt_of_not_ge hlt, rfl⟩

end ModuleRegistryState

namespace DecisionAuditState

variable {codec : FloatCodec} {audit audit' : DecisionAuditState} {entry : DecisionAuditEntry}

variable (codec) in
inductive Keeps (audit : DecisionAuditState) : DecisionAuditState → Prop where
  | same : Keeps audit audit
  | appended {written : DecisionAuditEntry} (hroom : audit.entries.length < audit.maxEntries)
      (hvalid : written.validate codec = .ok ()) (hsequence : written.sequence = audit.nextSequence + 1)
      (hepoch : written.controlEpoch = audit.currentEpoch)
      (hprevious : written.previousEntryDigest
        = audit.entries.getLast?.map DecisionAuditEntry.entryDigest)
      (htarget : written.kind = .rollback → ∃ decision ∈ audit.entries, decision.kind = .decision
        ∧ decision.controlEpoch = written.controlEpoch
        ∧ decision.decisionDigest = written.decisionDigest) :
    Keeps audit { audit with
      nextSequence := audit.nextSequence + 1
      activeDigest := some written.decisionDigest
      entries := audit.entries ++ [written] }

theorem Keeps.currentEpoch (h : audit.Keeps codec audit') :
    audit'.currentEpoch = audit.currentEpoch := by
  cases h with
  | same | appended _ _ _ _ _ _ => rfl

theorem keeps_appendEntry {kind : DecisionAuditKind} (hepoch : controlEpoch = audit.currentEpoch)
    (htarget : kind = .rollback → ∃ decision ∈ audit.entries, decision.kind = .decision
      ∧ decision.controlEpoch = controlEpoch ∧ decision.decisionDigest = decisionDigest)
    (h : audit.appendEntry codec controlEpoch recordedAtMs kind decisionDigest targetDigest
      = .ok (entry, audit')) :
    audit.Keeps codec audit' := by
  unfold appendEntry at h
  split at h
  . cases h
  next hroom =>
    split at h
    . cases h
    next sequence hsequence =>
      obtain ⟨rfl, _⟩ := Checked.add_eq_some.mp hsequence
      obtain ⟨_, hvalid, h⟩ := bind_eq_ok.mp h
      cases h
      exact .appended (Nat.lt_of_not_ge hroom) hvalid rfl hepoch rfl htarget

theorem keeps_recordLocked
    (h : audit.recordLocked codec decision recordedAtMs = .ok (entry, audit')) :
    audit.Keeps codec audit' ∧ decision.controlEpoch = audit.currentEpoch := by
  unfold recordLocked at h
  obtain ⟨_, _, h⟩ := bind_eq_ok.mp h
  split at h
  . cases h
  next hepoch =>
    split at h
    . split at h
      . cases h
        exact ⟨.same, not_not.mp hepoch⟩
      . cases h
    . refine ⟨keeps_appendEntry (not_not.mp hepoch) ?_ h, not_not.mp hepoch⟩
      intro hkind
      cases hkind

theorem keeps_rollbackLocked
    (h : audit.rollbackLocked codec targetDigest expectedEpoch recordedAtMs = .ok (entry, audit')) :
    audit.Keeps codec audit' := by
  unfold rollbackLocked at h
  split at h
  . cases h
  . split at h
    . cases h
    next hepoch =>
      split at h
      . cases h
      next target htarget =>
        split at h
        . cases h
          exact .same
        . have hfound := List.find?_some htarget
          simp only [Bool.and_eq_true, beq_iff_eq] at hfound
          exact keeps_appendEntry (not_not.mp hepoch) (fun _ => ⟨target,
            List.mem_of_find?_eq_some htarget, hfound.1.1, hfound.1.2, hfound.2⟩) h

theorem rotateEpoch_eq_ok (h : audit.rotateEpoch nextEpoch = .ok audit') :
    audit.currentEpoch < nextEpoch
      ∧ audit' = { audit with currentEpoch := nextEpoch, activeDigest := none } := by
  unfold rotateEpoch at h
  split at h
  . cases h
  next hlt =>
    cases h
    exact ⟨Nat.lt_of_not_ge hlt, rfl⟩

end DecisionAuditState

namespace System

open ControllerState DecisionAuditState

variable {codec : FloatCodec} {system : System}

theorem admitLease_eq_ok (h : system.admitLease lease nowMs requestedSlots newEffect = .ok decision)
    : system.state.validateAdmission lease nowMs requestedSlots newEffect = .ok decision := by
  unfold admitLease at h
  obtain ⟨decision', hvalid, h⟩ := bind_eq_ok.mp h
  obtain ⟨_, _, h⟩ := bind_eq_ok.mp h
  cases h
  exact hvalid

inductive Reserves (system : System) (lease : Lease) (nowMs slots : Nat) :
    Result AdmissionReservation × System → Prop where
  | refused (e : ControlError) : Reserves system lease nowMs slots (.error e, system)
  | pruned (e : ControlError) :
    Reserves system lease nowMs slots
      (.error e, { system with state := system.state.pruneExpired nowMs })
  | granted {token : AdmissionReservation} (hepoch : lease.controlEpoch = system.state.controlEpoch)
      (hmove : (system.state.pruneExpired nowMs).Move
        ((system.state.pruneExpired nowMs).reserved lease slots))
      (hid : token.reservationId = (system.state.pruneExpired nowMs).nextReservation + 1)
      (htoken : token.controlEpoch = lease.controlEpoch) :
    Reserves system lease nowMs slots
      (.ok token, { system with
        state := (system.state.pruneExpired nowMs).reserved lease slots
        tokens := system.tokens ++ [token] })

theorem reserves_reserveAdmission (system : System) (lease : Lease) (nowMs requestedSlots : Nat)
    (newEffect : Bool) :
    system.Reserves lease nowMs requestedSlots
      (system.reserveAdmission lease nowMs requestedSlots newEffect) := by
  unfold reserveAdmission
  split
  next e _ => exact .refused e
  next decision hadmitted =>
    obtain ⟨hepoch, hexpires, hlease⟩ := validateAdmission_eq_ok (admitLease_eq_ok hadmitted)
    dsimp only
    split
    next e _ => exact .pruned e
    next token state hreserve =>
      obtain ⟨rfl, rfl, htotal, hbudget⟩ := reserve_eq_ok hreserve
      apply Reserves.granted hepoch
      . exact .reserved (leases_pruneExpired hlease hexpires) htotal hbudget
      . rfl
      . rfl

variable {system' : System} {α : Type} {op : Op}

theorem rotateEpoch_eq_ok (h : system.rotateEpoch nextEpoch = .ok system') :
    system.state.controlEpoch < nextEpoch
      ∧ system.registry.currentEpoch = system.state.controlEpoch
      ∧ system.audit.currentEpoch = system.state.controlEpoch
      ∧ system' = { system with
          state := system.state.rotated nextEpoch
          registry := { system.registry with currentEpoch := nextEpoch, instances := ∅ }
          audit := { system.audit with currentEpoch := nextEpoch, activeDigest := none } } := by
  unfold rotateEpoch at h
  split at h
  . cases h
  next hlt =>
    split at h
    . cases h
    next hagree =>
      simp only [not_or, not_not] at hagree
      obtain ⟨state, hstate, h⟩ := bind_eq_ok.mp h
      obtain ⟨registry, hregistry, h⟩ := bind_eq_ok.mp h
      obtain ⟨audit, haudit, h⟩ := bind_eq_ok.mp h
      obtain ⟨hlt, rfl⟩ := ControllerState.rotateEpoch_eq_ok hstate
      obtain ⟨_, rfl⟩ := ModuleRegistryState.rotateEpoch_eq_ok hregistry
      obtain ⟨_, rfl⟩ := DecisionAuditState.rotateEpoch_eq_ok haudit
      cases h
      exact ⟨hlt, hagree.1, hagree.2, rfl⟩

theorem onRegistry_eq_ok {result : Result (α × ModuleRegistryState)} {x : α}
    (h : system.onRegistry result = .ok (x, system')) :
    ∃ registry, result = .ok (x, registry) ∧ system' = { system with registry } := by
  obtain ⟨⟨y, registry⟩, hresult, h⟩ := map_eq_ok.mp h
  cases h
  exact ⟨registry, hresult, rfl⟩

theorem onAudit_eq_ok {result : Result (α × DecisionAuditState)} {x : α}
    (h : system.onAudit result = .ok (x, system')) :
    ∃ audit, result = .ok (x, audit) ∧ system' = { system with audit } := by
  obtain ⟨⟨y, audit⟩, hresult, h⟩ := map_eq_ok.mp h
  cases h
  exact ⟨audit, hresult, rfl⟩

theorem withUnit_eq_ok {result : Result α} {x : Unit} (h : withUnit result = .ok (x, y)) :
    result = .ok y := by
  obtain ⟨z, hresult, h⟩ := map_eq_ok.mp h
  cases h
  exact hresult

inductive Transition (codec : FloatCodec) (system : System) (op : Op) (out : Answer) : System → Prop where
  | kept {state : ControllerState} {registry : ModuleRegistryState} {audit : DecisionAuditState}
      (hmoves : Moves system.state state)
      (hregistry : system.registry.Keeps registry)
      (haudit : system.audit.Keeps codec audit) :
    Transition codec system op out ⟨state, registry, audit, system.tokens⟩
  | released {index : Nat} {token : AdmissionReservation}
      (hop : op = .releaseToken index ∨ op = .dropToken index)
      (hget : system.tokens[index]? = some token) :
    Transition codec system op out { system with
      state := system.state.releaseReservation token.reservationId
      tokens := system.tokens.set index { token with released := true } }
  | reserved {lease : Lease} {nowMs slots : Nat} {token : AdmissionReservation}
      (hout : out = .reservation (.ok token))
      (hepoch : lease.controlEpoch = system.state.controlEpoch)
      (hmove : (system.state.pruneExpired nowMs).Move
        ((system.state.pruneExpired nowMs).reserved lease slots))
      (hid : token.reservationId = (system.state.pruneExpired nowMs).nextReservation + 1)
      (htoken : token.controlEpoch = lease.controlEpoch) :
    Transition codec system op out { system with
      state := (system.state.pruneExpired nowMs).reserved lease slots
      tokens := system.tokens ++ [token] }
  | rotatedRegistry {nextEpoch : Nat} (hop : op = .rotateRegistry nextEpoch)
      (hout : out = .done (.ok ())) (hlt : system.registry.currentEpoch < nextEpoch) :
    Transition codec system op out { system with
      registry := { system.registry with currentEpoch := nextEpoch, instances := ∅ } }
  | rotatedAudit {nextEpoch : Nat} (hop : op = .rotateAudit nextEpoch)
      (hout : out = .done (.ok ())) (hlt : system.audit.currentEpoch < nextEpoch) :
    Transition codec system op out { system with
      audit := { system.audit with currentEpoch := nextEpoch, activeDigest := none } }
  | rotated {nextEpoch : Nat} (hop : op = .rotateEpoch nextEpoch) (hout : out = .done (.ok ()))
      (hlt : system.state.controlEpoch < nextEpoch)
      (hregistry : system.registry.currentEpoch = system.state.controlEpoch)
      (haudit : system.audit.currentEpoch = system.state.controlEpoch) :
    Transition codec system op out { system with
      state := system.state.rotated nextEpoch
      registry := { system.registry with currentEpoch := nextEpoch, instances := ∅ }
      audit := { system.audit with currentEpoch := nextEpoch, activeDigest := none } }

def Current (system : System) (epoch : Nat) : Prop :=
  epoch = system.state.controlEpoch
    ∨ epoch = system.registry.currentEpoch
    ∨ epoch = system.audit.currentEpoch

theorem Transition.state_rule {P : ControllerState → Prop} {system' : System}
    (h : system.Transition codec op out system') (hstate : P system.state)
    (hmove : ∀ state state', P state → state.Move state' → P state')
    (hrotated : ∀ state nextEpoch, P state → state.controlEpoch < nextEpoch
      → P (state.rotated nextEpoch)) : P system'.state := by
  cases h with
  | kept hmoves _ _ =>
    induction hmoves with
    | refl => exact hstate
    | tail _ hlast ih => exact hmove _ _ ih hlast
  | released _ _ => exact hmove _ _ hstate (.released _)
  | reserved _ _ hreserved _ _ => exact hmove _ _ (hmove _ _ hstate (.pruned _)) hreserved
  | rotatedRegistry _ _ _ | rotatedAudit _ _ _ => exact hstate
  | rotated _ _ hlt _ _ => exact hrotated _ _ hstate hlt

theorem Transition.same (codec : FloatCodec) (system : System) (op : Op) (out : Answer) :
    system.Transition codec op out system := by
  exact .kept .refl (.refl _) .same

theorem Transition.ofMoves {state : ControllerState} (h : Moves system.state state) :
    system.Transition codec op out { system with state } := by
  exact .kept h (.refl _) .same

def Fresh (system : System) : Option Nat → Prop
  | some epoch => system.Current epoch
  | none => True

structure Steps (codec : FloatCodec) (system : System) (op : Op) (out : Answer) (system' : System) :
    Prop where
  transition : system.Transition codec op out system'
  accepted : out.error? = none → system.Fresh op.epoch?
  issued : system.Fresh out.epoch?

theorem steps_settle {answer : Result α → Answer} {result : Result (α × System)}
    (h : ∀ x system', result = .ok (x, system') → system.Steps codec op (answer (.ok x)) system')
    (herror : ∀ e, (answer (.error e)).error? = some e ∧ (answer (.error e)).epoch? = none := by
      exact fun _ => ⟨rfl, rfl⟩) :
    system.Steps codec op (settle system answer result).2 (settle system answer result).1 := by
  apply settle_rule (P := system.Steps codec op) _ h
  intro e
  refine ⟨.same _ _ _ _, ?_, ?_⟩
  . rw [(herror e).1]
    nofun
  . rw [(herror e).2]
    trivial

theorem steps_onRegistry {answer : Result α → Answer}
    {result : Result (α × ModuleRegistryState)}
    (h : ∀ x registry, result = .ok (x, registry) → system.registry.Keeps registry
      ∧ system.Fresh op.epoch? ∧ system.Fresh (answer (.ok x)).epoch?)
    (herror : ∀ e, (answer (.error e)).error? = some e ∧ (answer (.error e)).epoch? = none := by
      exact fun _ => ⟨rfl, rfl⟩) :
    system.Steps codec op (settle system answer (system.onRegistry result)).2
      (settle system answer (system.onRegistry result)).1 := by
  refine steps_settle (fun x system' hresult => ?_) herror
  obtain ⟨registry, hregistry, rfl⟩ := onRegistry_eq_ok hresult
  obtain ⟨hkeeps, haccepted, hissued⟩ := h x registry hregistry
  exact ⟨.kept .refl hkeeps .same, fun _ => haccepted, hissued⟩

theorem steps_onAudit {result : Result (DecisionAuditEntry × DecisionAuditState)}
    (h : ∀ x audit, result = .ok (x, audit) → system.audit.Keeps codec audit
      ∧ system.Fresh op.epoch?) :
    system.Steps codec op (settle system Answer.entry (system.onAudit result)).2
      (settle system Answer.entry (system.onAudit result)).1 := by
  refine steps_settle fun x system' hresult => ?_
  obtain ⟨audit, haudit, rfl⟩ := onAudit_eq_ok hresult
  obtain ⟨hkeeps, haccepted⟩ := h x audit haudit
  exact ⟨.kept .refl (.refl _) hkeeps, fun _ => haccepted, trivial⟩

theorem transition_releaseToken (hop : op = .releaseToken index ∨ op = .dropToken index)
    (hget : system.tokens[index]? = some token) :
    system.Transition codec op out (system.releaseToken index token) := by
  unfold releaseToken
  split
  . apply Transition.same
  . exact .released hop hget

theorem steps_step (codec : FloatCodec) (system : System) (op : Op) :
    system.Steps codec op (system.step codec op).2 (system.step codec op).1 := by
  cases op with
  | register inst =>
    refine steps_onRegistry fun x registry h => ?_
    obtain ⟨_, _, h⟩ := bind_eq_ok.mp (withUnit_eq_ok h)
    obtain ⟨hkeeps, hepoch⟩ := ModuleRegistryState.keeps_registerLocked h
    exact ⟨hkeeps, .inr (.inl hepoch), trivial⟩
  | registerInstance moduleId moduleInstanceId partition version nowMs =>
    refine steps_onRegistry fun x registry h => ?_
    obtain ⟨hkeeps, hinst⟩ := ModuleRegistryState.keeps_registerInstance h
    exact ⟨hkeeps, trivial, .inr (.inl hinst)⟩
  | heartbeat key controlEpoch fencingToken nowMs =>
    refine steps_onRegistry fun x registry h => ?_
    obtain ⟨_, _, h⟩ := bind_eq_ok.mp h
    obtain ⟨hkeeps, hepoch, hinst⟩ := ModuleRegistryState.keeps_heartbeatLocked h
    exact ⟨hkeeps, .inr (.inl hepoch), .inr (.inl hinst)⟩
  | setStatus key controlEpoch fencingToken status nowMs =>
    refine steps_onRegistry fun x registry h => ?_
    obtain ⟨hkeeps, hepoch⟩ := ModuleRegistryState.keeps_setStatus (withUnit_eq_ok h)
    exact ⟨hkeeps, .inr (.inl hepoch), trivial⟩
  | unregister key controlEpoch fencingToken =>
    refine steps_onRegistry fun x registry h => ?_
    obtain ⟨hkeeps, hepoch, hinst⟩ := ModuleRegistryState.keeps_unregister h
    exact ⟨hkeeps, .inr (.inl hepoch), .inr (.inl hinst)⟩
  | rotateRegistry nextEpoch =>
    refine steps_settle fun x system' h => ?_
    obtain ⟨registry, hresult, rfl⟩ := onRegistry_eq_ok h
    obtain ⟨hlt, rfl⟩ := ModuleRegistryState.rotateEpoch_eq_ok (withUnit_eq_ok hresult)
    exact ⟨.rotatedRegistry rfl rfl hlt, fun _ => trivial, trivial⟩
  | recordDecision decision recordedAtMs =>
    refine steps_onAudit fun x audit h => ?_
    obtain ⟨hkeeps, hepoch⟩ := keeps_recordLocked h
    exact ⟨hkeeps, .inr (.inr hepoch)⟩
  | rollbackDecision targetDigest expectedEpoch recordedAtMs =>
    exact steps_onAudit fun x audit h => ⟨keeps_rollbackLocked h, trivial⟩
  | verifyAudit => exact ⟨.same _ _ _ _, fun _ => trivial, trivial⟩
  | admitLease lease nowMs requestedSlots newEffect =>
    refine ⟨.same _ _ _ _, ?_, trivial⟩
    simp only [step]
    cases hadmitted : system.admitLease lease nowMs requestedSlots newEffect with
    | error e => nofun
    | ok decision => exact fun _ => .inl (validateAdmission_eq_ok (admitLease_eq_ok hadmitted)).1
  | rotateAudit nextEpoch =>
    refine steps_settle fun x system' h => ?_
    obtain ⟨audit, hresult, rfl⟩ := onAudit_eq_ok h
    obtain ⟨hlt, rfl⟩ := DecisionAuditState.rotateEpoch_eq_ok (withUnit_eq_ok hresult)
    exact ⟨.rotatedAudit rfl rfl hlt, fun _ => trivial, trivial⟩
  | recordShadowDecision decision recordedAtMs =>
    refine steps_settle fun entry system' h => ?_
    unfold recordShadowDecision at h
    obtain ⟨hepoch, h⟩ := rejectIf_bind_eq_ok.mp h
    obtain ⟨_, _, h⟩ := bind_eq_ok.mp h
    obtain ⟨_, _, h⟩ := bind_eq_ok.mp h
    obtain ⟨_, h⟩ := rejectIf_bind_eq_ok.mp h
    obtain ⟨audit, haudit, rfl⟩ := onAudit_eq_ok h
    exact ⟨.kept .refl (.refl _) (keeps_recordLocked haudit).1, fun _ => .inl (not_not.mp hepoch),
      trivial⟩
  | shadowDecisionAndRecord generatedAtMs =>
    refine steps_settle fun decision system' h => ?_
    unfold shadowDecisionAndRecord at h
    obtain ⟨_, hdecision, h⟩ := bind_eq_ok.mp h
    obtain ⟨_, haudit, h⟩ := bind_eq_ok.mp h
    cases h
    refine ⟨.kept ?_ (.refl _) (keeps_recordLocked haudit).1, fun _ => trivial,
      .inl (controlEpoch_shadowDecision hdecision)⟩
    apply moves_shadowDecision
  | rollbackShadowDecision targetDigest recordedAtMs =>
    refine steps_settle fun entry system' h => ?_
    unfold rollbackShadowDecision at h
    obtain ⟨_, haudit, h⟩ := bind_eq_ok.mp h
    cases h
    exact ⟨.kept (.single (.bookkeeping _ _ _)) (.refl _) (keeps_rollbackLocked haudit),
      fun _ => trivial, trivial⟩
  | setOutage outage => exact ⟨.ofMoves (.single (.bookkeeping _ _ _)), fun _ => trivial, trivial⟩
  | issueLease key nowMs requestedTtlMs =>
    simp only [step, issueLease]
    split
    . exact ⟨.same _ _ _ _, fun _ => trivial, trivial⟩
    . refine ⟨.ofMoves moves_issueLease, fun _ => trivial, ?_⟩
      rcases hissue : system.state.issueLease key nowMs requestedTtlMs with ⟨_ | lease, state⟩
      . trivial
      . exact .inl (ControllerState.issueLease_eq_ok hissue).1
  | observe observation =>
    refine steps_settle fun x system' h => ?_
    obtain ⟨state, hstate, h⟩ := map_eq_ok.mp h
    cases h
    obtain ⟨hepoch, hmoves⟩ := moves_observe hstate
    exact ⟨.ofMoves hmoves, fun _ => .inl hepoch, trivial⟩
  | shadowDecision generatedAtMs =>
    refine ⟨.ofMoves moves_shadowDecision, fun _ => trivial, ?_⟩
    simp only [step]
    cases hdecision : (system.state.shadowDecision codec generatedAtMs system.registry true).1 with
    | error e => trivial
    | ok decision => exact .inl (controlEpoch_shadowDecision hdecision)
  | reserveAdmission lease nowMs requestedSlots newEffect =>
    have hreserves := system.reserves_reserveAdmission lease nowMs requestedSlots newEffect
    simp only [step]
    generalize system.reserveAdmission lease nowMs requestedSlots newEffect = result at hreserves
    cases hreserves with
    | refused e => exact ⟨.same _ _ _ _, nofun, trivial⟩
    | pruned e => exact ⟨.ofMoves (.single (.pruned nowMs)), nofun, trivial⟩
    | granted hepoch hmove hid htoken =>
      exact ⟨.reserved rfl hepoch hmove hid htoken, fun _ => .inl hepoch, .inl (htoken.trans hepoch)⟩
  | rotateEpoch nextEpoch =>
    refine steps_settle fun x system' h => ?_
    obtain ⟨hlt, hregistry, haudit, rfl⟩ := rotateEpoch_eq_ok (withUnit_eq_ok h)
    exact ⟨.rotated rfl rfl hlt hregistry haudit, fun _ => trivial, trivial⟩
  | validateToken index nowMs newEffect =>
    simp only [step]
    split
    . exact ⟨.same _ _ _ _, fun _ => trivial, trivial⟩
    . exact ⟨.same _ _ _ _, fun _ => trivial, trivial⟩
  | releaseToken index =>
    simp only [step]
    split
    . exact ⟨.same _ _ _ _, fun _ => trivial, trivial⟩
    next hget => exact ⟨transition_releaseToken (.inl rfl) hget, fun _ => trivial, trivial⟩
  | dropToken index =>
    simp only [step]
    split
    . exact ⟨.same _ _ _ _, fun _ => trivial, trivial⟩
    next hget => exact ⟨transition_releaseToken (.inr rfl) hget, fun _ => trivial, trivial⟩

theorem step_transition (codec : FloatCodec) (system : System) (op : Op) :
    system.Transition codec op (system.step codec op).2 (system.step codec op).1 :=
  (steps_step codec system op).transition

end System

end ControlPlane
