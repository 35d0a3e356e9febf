import Trillionnium.ControlPlane.Basic

namespace ControlPlane

open Json Text

def defaultMaxModuleInstances : Nat := 4096

def maxModuleRegistryEntries : Nat := 1048576

structure ModuleRegistryState where
  currentEpoch : Nat
  maxInstances : Nat
  instances : BTreeMap ModuleInstanceKey ModuleInstance

namespace ModuleRegistryState

def new (currentEpoch maxInstances : Nat) : Result ModuleRegistryState :=
  if currentEpoch = 0 then
    .error (.invalid "module registry epoch must be non-zero")
  else if maxInstances = 0 ∨ maxInstances > maxModuleRegistryEntries then
    .error (.invalid
      s!"module registry limit must be between 1 and {maxModuleRegistryEntries}")
  else
    .ok { currentEpoch, maxInstances, instances := ∅ }

def registerLocked (state : ModuleRegistryState) (inst : ModuleInstance) :
    Result ModuleRegistryState :=
  if inst.controlEpoch ≠ state.currentEpoch then
    .error .epochMismatch
  else if inst.fencingToken ≠ fencingTokenOf state.currentEpoch then
    .error .fencingMismatch
  else
    match state.instances[inst.key]? with
    | some previous =>
      if previous = inst then
        .ok state
      else
        .error (.invalid "module instance registration conflicts with an existing identity")
    | none =>
      if state.instances.size ≥ state.maxInstances then
        .error .capacityExceeded
      else
        .ok { state with instances := state.instances.insert inst.key inst }

def register (state : ModuleRegistryState) (inst : ModuleInstance) :
    Result ModuleRegistryState := do
  inst.validate
  state.registerLocked inst

def registerInstance (state : ModuleRegistryState)
    (moduleId moduleInstanceId partition version : String) (nowMs : Nat) :
    Result (ModuleInstance × ModuleRegistryState) := do
  let inst : ModuleInstance := {
    schema := moduleInstanceSchema
    moduleId
    moduleInstanceId
    partition
    version
    controlEpoch := state.currentEpoch
    fencingToken := fencingTokenOf state.currentEpoch
    status := .registered
    registeredAtMs := nowMs
    lastSeenAtMs := nowMs
  }
  inst.validate
  let state ← state.registerLocked inst
  return (inst, state)

def fenced (state : ModuleRegistryState) (key : ModuleInstanceKey) (controlEpoch : Nat)
    (fencingToken : String) : Result ModuleInstance :=
  if controlEpoch ≠ state.currentEpoch then
    .error .epochMismatch
  else if fencingToken ≠ fencingTokenOf state.currentEpoch then
    .error .fencingMismatch
  else
    match state.instances[key]? with
    | none => .error (.invalid "module instance is not registered")
    | some inst =>
      if inst.controlEpoch ≠ controlEpoch ∨ inst.fencingToken ≠ fencingToken then
        .error .fencingMismatch
      else
        .ok inst

def heartbeatLocked (state : ModuleRegistryState) (key : ModuleInstanceKey) (controlEpoch : Nat)
    (fencingToken : String) (nowMs : Nat) : Result (ModuleInstance × ModuleRegistryState) := do
  let inst ← state.fenced key controlEpoch fencingToken
  if nowMs < inst.lastSeenAtMs then
    .error (.invalid "module heartbeat timestamp regressed")
  else
    let status := if inst.status = .offline then .registered else inst.status
    let inst := { inst with lastSeenAtMs := nowMs, status }
    return (inst, { state with instances := state.instances.insert key inst })

def heartbeat (state : ModuleRegistryState) (key : ModuleInstanceKey) (controlEpoch : Nat)
    (fencingToken : String) (nowMs : Nat) : Result (ModuleInstance × ModuleRegistryState) := do
  key.validate
  state.heartbeatLocked key controlEpoch fencingToken nowMs

def setStatus (state : ModuleRegistryState) (key : ModuleInstanceKey) (controlEpoch : Nat)
    (fencingToken : String) (status : ModuleInstanceStatus) (nowMs : Nat) :
    Result ModuleRegistryState := do
  key.validate
  let (_, state) ← state.heartbeatLocked key controlEpoch fencingToken nowMs
  let inst ← state.fenced key controlEpoch fencingToken
  return { state with instances := state.instances.insert key { inst with status } }

def unregister (state : ModuleRegistryState) (key : ModuleInstanceKey) (controlEpoch : Nat)
    (fencingToken : String) : Result (ModuleInstance × ModuleRegistryState) := do
  key.validate
  let inst ← state.fenced key controlEpoch fencingToken
  return (inst, { state with instances := state.instances.erase key })

def rotateEpoch (state : ModuleRegistryState) (nextEpoch : Nat) : Result ModuleRegistryState :=
  if nextEpoch ≤ state.currentEpoch then
    .error .epochMismatch
  else
    .ok { state with currentEpoch := nextEpoch, instances := ∅ }

def validateLeaseBinding (registry : ModuleRegistryState) (lease : Lease) (expectedEpoch : Nat)
    (requireRegistered : Bool) : Result Unit :=
  if registry.currentEpoch ≠ expectedEpoch then
    .error .epochMismatch
  else
    match registry.instances[lease.key]? with
    | none => .error (.invalid "lease module instance is not registered")
    | some inst =>
      if inst.controlEpoch ≠ lease.controlEpoch then
        .error .epochMismatch
      else if inst.fencingToken ≠ lease.fencingToken then
        .error .fencingMismatch
      else if requireRegistered ∧ inst.status ≠ .registered then
        .error (.invalid "module instance is not accepting effectful work")
      else
        .ok ()

def validateObservationBinding (registry : ModuleRegistryState) (observation : ModuleObservation)
    (expectedEpoch : Nat) (requireRegistered : Bool) : Result Unit :=
  if registry.currentEpoch ≠ expectedEpoch ∨ observation.controlEpoch ≠ expectedEpoch then
    .error .epochMismatch
  else
    match registry.instances[observation.key]? with
    | none => .error (.invalid "observation module instance is not registered")
    | some inst =>
      if inst.controlEpoch ≠ expectedEpoch then
        .error .epochMismatch
      else if inst.fencingToken ≠ fencingTokenOf expectedEpoch then
        .error .fencingMismatch
      else if requireRegistered ∧ inst.status ≠ .registered then
        .error (.invalid "module instance is not accepting observations")
      else
        .ok ()

end ModuleRegistryState

end ControlPlane
