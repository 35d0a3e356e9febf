import Trillionnium.ControlPlane.Impl.Controller
import Trillionnium.Machine.Run

/-!
The controller with its module registry, its decision audit and the capacity tokens that it has handed
out, as a machine that answers the public calls. Each call holds the locks that it needs from its
first check on, so the calls of concurrent callers happen one after the other.
-/

namespace ControlPlane

open Json Machine

structure System where
  state : ControllerState
  registry : ModuleRegistryState
  audit : DecisionAuditState
  tokens : List AdmissionReservation

namespace System

def new (mode : ControlMode) (controlEpoch : Nat) (config : ControllerConfig)
    (limits : ControllerLimits) (shadowPolicy : ShadowPolicy) : Result System := do
  rejectIf (controlEpoch = 0) (.invalid "control epoch must be non-zero")
  config.validate
  limits.validate
  shadowPolicy.validate
  rejectIf (mode.isShadowSafe = false) .unsupportedMode
  let registry ← ModuleRegistryState.new controlEpoch defaultMaxModuleInstances
  let audit ← DecisionAuditState.new controlEpoch defaultMaxAuditEntries
  return {
    state := {
      mode
      controlEpoch
      config
      shadowPolicy
      shadowRecommendations := ∅
      nextLease := 0
      outage := false
      limits
      leases := ∅
      observations := ∅
      nextReservation := 0
      reservedSlots := 0
      reservations := ∅
      leaseReservedSlots := ∅
    }
    registry
    audit
    tokens := []
  }

end System

inductive Op where
  | register (inst : ModuleInstance)
  | registerInstance (moduleId moduleInstanceId partition version : String) (nowMs : Nat)
  | heartbeat (key : ModuleInstanceKey) (controlEpoch : Nat) (fencingToken : String) (nowMs : Nat)
  | setStatus (key : ModuleInstanceKey) (controlEpoch : Nat) (fencingToken : String)
      (status : ModuleInstanceStatus) (nowMs : Nat)
  | unregister (key : ModuleInstanceKey) (controlEpoch : Nat) (fencingToken : String)
  | rotateRegistry (nextEpoch : Nat)
  | recordDecision (decision : ShadowDecision) (recordedAtMs : Nat)
  | rollbackDecision (targetDigest : String) (expectedEpoch recordedAtMs : Nat)
  | verifyAudit
  | rotateAudit (nextEpoch : Nat)
  | recordShadowDecision (decision : ShadowDecision) (recordedAtMs : Nat)
  | shadowDecisionAndRecord (generatedAtMs : Nat)
  | rollbackShadowDecision (targetDigest : String) (recordedAtMs : Nat)
  | setOutage (outage : Bool)
  | issueLease (key : ModuleInstanceKey) (nowMs : Nat) (requestedTtlMs : Option Nat)
  | observe (observation : ModuleObservation)
  | shadowDecision (generatedAtMs : Nat)
  | admitLease (lease : Lease) (nowMs requestedSlots : Nat) (newEffect : Bool)
  | reserveAdmission (lease : Lease) (nowMs requestedSlots : Nat) (newEffect : Bool)
  | rotateEpoch (nextEpoch : Nat)
  | validateToken (index nowMs : Nat) (newEffect : Bool)
  | releaseToken (index : Nat)
  | dropToken (index : Nat)

inductive Answer where
  | done (result : Result Unit)
  | inst (result : Result ModuleInstance)
  | entry (result : Result DecisionAuditEntry)
  | decision (result : Result ShadowDecision)
  | lease (result : Result Lease)
  | admission (result : Result AdmissionDecision)
  | reservation (result : Result AdmissionReservation)
  | noToken

def Answer.error? : Answer → Option ControlError
  | .done (.error e) | .inst (.error e) | .entry (.error e) | .decision (.error e)
  | .lease (.error e) | .admission (.error e) | .reservation (.error e) => some e
  | _ => none

namespace System

def onRegistry {α : Type} (system : System) (result : Result (α × ModuleRegistryState)) :
    Result (α × System) :=
  result.map fun (x, registry) => (x, { system with registry })

def onAudit {α : Type} (system : System) (result : Result (α × DecisionAuditState)) :
    Result (α × System) :=
  result.map fun (x, audit) => (x, { system with audit })

def withUnit {α : Type} (result : Result α) : Result (Unit × α) := result.map fun x => ((), x)

variable (codec : FloatCodec)

def recordShadowDecision (system : System) (decision : ShadowDecision) (recordedAtMs : Nat) :
    Result (DecisionAuditEntry × System) := do
  rejectIf (decision.controlEpoch ≠ system.state.controlEpoch) .epochMismatch
  decision.validate codec system.state.controlEpoch
  let expected ←
    (system.state.shadowDecision codec decision.generatedAtMs system.registry false).1
  rejectIf (expected ≠ decision)
    (.invalid "shadow decision does not match the controller observation projection")
  system.onAudit (system.audit.recordLocked codec decision recordedAtMs)

def shadowDecisionAndRecord (system : System) (generatedAtMs : Nat) :
    Result (ShadowDecision × System) := do
  let (result, state) := system.state.shadowDecision codec generatedAtMs system.registry true
  let decision ← result
  let (_, audit) ← system.audit.recordLocked codec decision generatedAtMs
  return (decision, { system with state, audit })

def rollbackShadowDecision (system : System) (targetDigest : String) (recordedAtMs : Nat) :
    Result (DecisionAuditEntry × System) := do
  let (entry, audit) ← system.audit.rollbackLocked codec targetDigest system.state.controlEpoch
    recordedAtMs
  return (entry, { system with audit, state := { system.state with shadowRecommendations := ∅ } })

def checkInstance (system : System) (key : ModuleInstanceKey) : Result Unit := do
  key.validate
  match system.registry.instances[key]? with
  | none => .error (.invalid "cannot issue a lease for an unregistered module instance")
  | some inst =>
    rejectIf (inst.status ≠ .registered)
      (.invalid "cannot issue a lease for an offline or draining module instance")
    rejectIf (inst.controlEpoch ≠ system.state.controlEpoch
        ∨ inst.fencingToken ≠ system.state.fencingToken)
      .fencingMismatch

def issueLease (system : System) (key : ModuleInstanceKey) (nowMs : Nat)
    (requestedTtlMs : Option Nat) : Result Lease × System :=
  match system.checkInstance key with
  | .error e => (.error e, system)
  | .ok () =>
    let (result, state) := system.state.issueLease key nowMs requestedTtlMs
    (result, { system with state })

def admitLease (system : System) (lease : Lease) (nowMs requestedSlots : Nat) (newEffect : Bool) :
    Result AdmissionDecision := do
  let decision ← system.state.validateAdmission lease nowMs requestedSlots newEffect
  system.registry.validateLeaseBinding lease system.state.controlEpoch newEffect
  return decision

def reserveAdmission (system : System) (lease : Lease) (nowMs requestedSlots : Nat)
    (newEffect : Bool) : Result AdmissionReservation × System :=
  match system.admitLease lease nowMs requestedSlots newEffect with
  | .error e => (.error e, system)
  | .ok decision =>
    let pruned := system.state.pruneExpired nowMs
    match pruned.reserve lease requestedSlots decision with
    | .error e => (.error e, { system with state := pruned })
    | .ok (token, state) => (.ok token, { system with state, tokens := system.tokens ++ [token] })

def rotateEpoch (system : System) (nextEpoch : Nat) : Result System :=
  if nextEpoch ≤ system.state.controlEpoch then
    .error .epochMismatch
  else if system.registry.currentEpoch ≠ system.state.controlEpoch
      ∨ system.audit.currentEpoch ≠ system.state.controlEpoch then
    .error (.invalid "controller epoch state is inconsistent")
  else do
    let state ← system.state.rotateEpoch nextEpoch
    let registry ← system.registry.rotateEpoch nextEpoch
    let audit ← system.audit.rotateEpoch nextEpoch
    return { system with state, registry, audit }

def validateToken (system : System) (token : AdmissionReservation) (nowMs : Nat)
    (newEffect : Bool) : Result AdmissionDecision :=
  if token.released
      ∨ system.state.reservations[token.reservationId]?
        ≠ some ⟨token.leaseId, token.controlEpoch, token.slots⟩ then
    .error (.invalid "admission reservation is no longer active")
  else
    system.admitLease token.lease nowMs token.slots newEffect

def releaseToken (system : System) (index : Nat) (token : AdmissionReservation) : System :=
  if token.released then
    system
  else
    { system with
      state := system.state.releaseReservation token.reservationId
      tokens := system.tokens.set index { token with released := true } }

def step (system : System) : Op → System × Answer
  | .register inst =>
    settle system .done (system.onRegistry (withUnit (system.registry.register inst)))
  | .registerInstance moduleId moduleInstanceId partition version nowMs =>
    settle system .inst (system.onRegistry
      (system.registry.registerInstance moduleId moduleInstanceId partition version nowMs))
  | .heartbeat key controlEpoch fencingToken nowMs =>
    settle system .inst (system.onRegistry
      (system.registry.heartbeat key controlEpoch fencingToken nowMs))
  | .setStatus key controlEpoch fencingToken status nowMs =>
    settle system .done (system.onRegistry
      (withUnit (system.registry.setStatus key controlEpoch fencingToken status nowMs)))
  | .unregister key controlEpoch fencingToken =>
    settle system .inst (system.onRegistry
      (system.registry.unregister key controlEpoch fencingToken))
  | .rotateRegistry nextEpoch =>
    settle system .done (system.onRegistry (withUnit (system.registry.rotateEpoch nextEpoch)))
  | .recordDecision decision recordedAtMs =>
    settle system .entry (system.onAudit (system.audit.recordLocked codec decision recordedAtMs))
  | .rollbackDecision targetDigest expectedEpoch recordedAtMs =>
    settle system .entry (system.onAudit
      (system.audit.rollbackLocked codec targetDigest expectedEpoch recordedAtMs))
  | .verifyAudit => (system, .done (system.audit.verify codec))
  | .rotateAudit nextEpoch =>
    settle system .done (system.onAudit (withUnit (system.audit.rotateEpoch nextEpoch)))
  | .recordShadowDecision decision recordedAtMs =>
    settle system .entry (system.recordShadowDecision codec decision recordedAtMs)
  | .shadowDecisionAndRecord generatedAtMs =>
    settle system .decision (system.shadowDecisionAndRecord codec generatedAtMs)
  | .rollbackShadowDecision targetDigest recordedAtMs =>
    settle system .entry (system.rollbackShadowDecision codec targetDigest recordedAtMs)
  | .setOutage outage => ({ system with state := { system.state with outage } }, .done (.ok ()))
  | .issueLease key nowMs requestedTtlMs =>
    let (result, system) := system.issueLease key nowMs requestedTtlMs
    (system, .lease result)
  | .observe observation =>
    settle system .done ((system.state.observe observation system.registry).map
      fun state => ((), { system with state }))
  | .shadowDecision generatedAtMs =>
    let (result, state) := system.state.shadowDecision codec generatedAtMs system.registry true
    ({ system with state }, .decision result)
  | .admitLease lease nowMs requestedSlots newEffect =>
    (system, .admission (system.admitLease lease nowMs requestedSlots newEffect))
  | .reserveAdmission lease nowMs requestedSlots newEffect =>
    let (result, system) := system.reserveAdmission lease nowMs requestedSlots newEffect
    (system, .reservation result)
  | .rotateEpoch nextEpoch => settle system .done (withUnit (system.rotateEpoch nextEpoch))
  | .validateToken index nowMs newEffect =>
    match system.tokens[index]? with
    | none => (system, .noToken)
    | some token => (system, .admission (system.validateToken token nowMs newEffect))
  | .releaseToken index | .dropToken index =>
    match system.tokens[index]? with
    | none => (system, .noToken)
    | some token => (system.releaseToken index token, .done (.ok ()))

end System

end ControlPlane
