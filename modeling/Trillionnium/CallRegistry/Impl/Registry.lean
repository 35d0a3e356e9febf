import Trillionnium.CallRegistry.Basic
import Trillionnium.Data.Sharded

/-!
The operations of the owner-open call registry. An operation holds the lock of its key's shard from
its first look at the entry on and updates each of the two shared counters at most once, so that a
concurrent execution is a sequence of whole operations.
-/

namespace CallRegistry

open Sharded

def requireId (value label : String) (maximum : Nat) : Except RegistryError Unit :=
  if Text.isId value maximum then
    .ok ()
  else
    .error (.invalidRequest s!"{label} is empty, oversized or malformed")

def requireSha256 (value label : String) : Except RegistryError Unit :=
  if Text.isSha256 value then
    .ok ()
  else
    .error (.invalidRequest s!"{label} must be a lowercase SHA-256")

def requireText (value label : String) (maximum : Nat) (allowEmpty : Bool) :
    Except RegistryError Unit :=
  if Text.isText value maximum allowEmpty then
    .ok ()
  else
    .error (.invalidRequest s!"{label} is empty, oversized or malformed")

def registryShardCount : Nat := 64

def registryShardHashVersion : UInt8 := 1

def shardIndex (key : CallKey) : Fin registryShardCount :=
  ⟨Fnv.stableShardIndex registryShardHashVersion registryShardCount "owner-open-call-registry"
      [key.scope.sessionId, key.scope.profileId, key.scope.taskId, key.scope.turnId,
        key.scope.turnStreamId, key.callId],
    Fnv.stableShardIndex_lt (by decide)⟩

structure Registry where
  limits : RegistryLimits
  shards : Shards registryShardCount CallKey Entry
  entryCount : Nat
  nextSpawnGeneration : Nat

abbrev Result (α : Type) := Except RegistryError α

namespace Registry

def new (limits : RegistryLimits) : Result Registry := do
  limits.validate
  return {
    limits := limits
    shards := Sharded.empty
    entryCount := 0
    nextSpawnGeneration := 1
  }

def get? (registry : Registry) (key : CallKey) : Option Entry :=
  Sharded.get? shardIndex registry.shards key

def insert (registry : Registry) (key : CallKey) (entry : Entry) : Registry :=
  { registry with shards := Sharded.insert shardIndex registry.shards key entry }

def validateKey (registry : Registry) (key : CallKey) : Result Unit := do
  requireId key.scope.sessionId "session_id" registry.limits.maxIdBytes
  requireId key.scope.profileId "profile_id" registry.limits.maxIdBytes
  requireId key.scope.taskId "task_id" registry.limits.maxIdBytes
  requireId key.scope.turnId "turn_id" registry.limits.maxIdBytes
  requireId key.scope.turnStreamId "turn_stream_id" registry.limits.maxIdBytes
  requireId key.callId "call_id" registry.limits.maxIdBytes

def validateRequest (registry : Registry) (request : CallRequest) : Result Unit := do
  requireSha256 request.requestSha256 "request_sha256"
  requireSha256 request.bindingFingerprint "binding_fingerprint"
  requireText request.tool "tool" registry.limits.maxToolBytes false
  match request.targetId with
  | some targetId => requireText targetId "target_id" registry.limits.maxTargetBytes true
  | none => .ok ()

def validateTerminal (terminal : TerminalRecord) : Result Unit := do
  requireText terminal.terminalKind "terminal_kind" 128 false
  requireSha256 terminal.observationSha256 "observation_sha256"
  if terminal.signal.any (fun signal => !(1 ≤ signal && signal ≤ 128)) then
    .error (.invalidRequest "terminal signal is outside the supported range")
  else if terminal.exitCode.isSome && terminal.signal.isSome then
    .error (.invalidRequest "terminal cannot contain both exit code and signal")
  else
    .ok ()

def reserveEntry (registry : Registry) : Result Registry :=
  if registry.entryCount ≥ registry.limits.maxEntries then
    .error .capacityExhausted
  else
    .ok { registry with entryCount := registry.entryCount + 1 }

def releaseEntry (registry : Registry) : Registry :=
  { registry with entryCount := Sharded.release registry.entryCount }

def remove (registry : Registry) (key : CallKey) : Registry :=
  releaseEntry { registry with shards := Sharded.erase shardIndex registry.shards key }

def allocateGeneration (registry : Registry) : Result (Nat × Registry) :=
  if registry.nextSpawnGeneration = 0 ∨ registry.nextSpawnGeneration = Entry.u64Max then
    .error .generationExhausted
  else
    .ok (registry.nextSpawnGeneration,
      { registry with nextSpawnGeneration := registry.nextSpawnGeneration + 1 })

def push (registry : Registry) (entry : Entry) (kind : CallEventKind) : Entry :=
  entry.pushEvent kind registry.limits.maxHistoryPerCall

def freshEntry (registry : Registry) (key : CallKey) (request : CallRequest) : Entry :=
  registry.push
    { key := key, request := request, dispatch := .accepted false, connectionLost := false,
      cancellation := false, history := [], nextEventSeq := 0 }
    .accepted

def begin (registry : Registry) (key : CallKey) (request : CallRequest) :
    Result (BeginResult × Registry) := do
  registry.validateKey key
  registry.validateRequest request
  match registry.get? key with
  | some entry =>
    if entry.request ≠ request then
      .error .callIdConflict
    else
      return (⟨.existing, entry.snapshot⟩, registry)
  | none =>
    let registry ← registry.reserveEntry
    let entry := registry.freshEntry key request
    return (⟨.new, entry.snapshot⟩, registry.insert key entry)

end Registry

def Entry.isUntouched (entry : Entry) : Bool :=
  entry.dispatch = .accepted false
    && !entry.connectionLost
    && !entry.cancellation
    && entry.history.length = 1
    && entry.history.head?.map CallEvent.kind = some .accepted

namespace Registry

def rollbackAccept (registry : Registry) (key : CallKey) (request : CallRequest) :
    Result (Bool × Registry) :=
  match registry.get? key with
  | none => .ok (false, registry)
  | some entry =>
    if entry.request ≠ request then
      .error .callIdConflict
    else if !entry.isUntouched then
      .error (.invalidTransition "only an untouched accepted call can be rolled back")
    else
      .ok (true, registry.remove key)

def mutate (registry : Registry) (key : CallKey) (change : Entry → Entry) :
    Result (CallSnapshot × Registry) :=
  match registry.get? key with
  | none => .error .notFound
  | some entry => .ok ((change entry).snapshot, registry.insert key (change entry))

def inhibitSpawn (registry : Registry) (key : CallKey) : Result (CallSnapshot × Registry) :=
  registry.mutate key fun entry =>
    if entry.dispatch = .accepted false then
      registry.push { entry with dispatch := .accepted true } .spawnInhibited
    else
      entry

def claimSpawn (registry : Registry) (key : CallKey) (requestSha256 : String) :
    Result (SpawnClaim × Registry) := do
  requireSha256 requestSha256 "request_sha256"
  match registry.get? key with
  | none => .error .notFound
  | some entry =>
    if entry.request.requestSha256 ≠ requestSha256 then
      .error .requestDigestMismatch
    else
      match entry.dispatch with
      | .accepted spawnInhibited =>
        if spawnInhibited || entry.cancellation then
          return (.inhibited entry.snapshot, registry)
        else
          let (generation, registry) ← registry.allocateGeneration
          let entry := registry.push { entry with dispatch := .started generation none }
            (.spawnClaimed generation)
          return (.granted generation entry.snapshot, registry.insert key entry)
      | .started _ _ => return (.existing entry.snapshot, registry)
      | .terminal _ _ => return (.existing entry.snapshot, registry)

def recordPid (registry : Registry) (key : CallKey) (generation pid : Nat) :
    Result (MutationOutcome × Registry) :=
  if pid = 0 then
    .error (.invalidRequest "pid must be non-zero")
  else
    match registry.get? key with
    | none => .error .notFound
    | some entry =>
      match entry.dispatch with
      | .started expected observed =>
        if expected = generation then
          match observed with
          | some existing =>
            if existing = pid then .ok (.idempotent, registry) else .error .pidConflict
          | none =>
            .ok (.applied, registry.insert key
              (registry.push { entry with dispatch := .started expected (some pid) }
                (.pidObserved generation pid)))
        else
          .error .spawnGenerationMismatch
      | .terminal _ _ => .error .spawnGenerationMismatch
      | .accepted _ => .error (.invalidTransition "cannot record a pid before spawn is claimed")

def requestCancel (registry : Registry) (key : CallKey) : Result (CallSnapshot × Registry) :=
  registry.mutate key fun entry =>
    if entry.cancellation then
      entry
    else
      registry.push { entry with cancellation := true } .cancelRequested

end Registry

def DispatchState.inhibit : DispatchState → DispatchState
  | .accepted _ => .accepted true
  | dispatch => dispatch

namespace Registry

def markConnectionLost (registry : Registry) (key : CallKey) : Result (CallSnapshot × Registry) :=
  registry.mutate key fun entry =>
    if entry.connectionLost then
      entry
    else
      registry.push { entry with connectionLost := true, dispatch := entry.dispatch.inhibit }
        .connectionLost

def markConnectionAttached (registry : Registry) (key : CallKey) :
    Result (CallSnapshot × Registry) :=
  registry.mutate key fun entry =>
    if entry.connectionLost then
      registry.push { entry with connectionLost := false } .connectionAttached
    else
      entry

def complete (registry : Registry) (key : CallKey) (generation : Nat) (terminal : TerminalRecord) :
    Result (MutationOutcome × Registry) := do
  validateTerminal terminal
  match registry.get? key with
  | none => .error .notFound
  | some entry =>
    match entry.dispatch with
    | .started expected _ =>
      if expected = generation then
        return (.applied, registry.insert key
          (registry.push { entry with dispatch := .terminal generation terminal }
            (.terminalRecorded generation terminal)))
      else
        .error .spawnGenerationMismatch
    | .terminal expected existing =>
      if expected = generation ∧ existing = terminal then
        return (.idempotent, registry)
      else
        .error .terminalConflict
    | .accepted _ =>
      .error (.invalidTransition "cannot complete a call before spawn is claimed")

def snapshot (registry : Registry) (key : CallKey) : Result CallSnapshot :=
  match registry.get? key with
  | none => .error .notFound
  | some entry => .ok entry.snapshot

def historyFrom (registry : Registry) (key : CallKey) (inclusiveSeq : Nat) :
    Result (List CallEvent) :=
  match registry.get? key with
  | none => .error .notFound
  | some entry => .ok (entry.history.filter (fun event => event.seq ≥ inclusiveSeq))

end Registry

def Entry.isTerminal (entry : Entry) : Bool :=
  match entry.dispatch with
  | .terminal _ _ => true
  | _ => false

namespace Registry

def removeTerminal (registry : Registry) (key : CallKey) : Bool × Registry :=
  if (registry.get? key).any Entry.isTerminal then
    (true, registry.remove key)
  else
    (false, registry)

def cancelSignal (registry : Registry) (key : CallKey) : Bool × Registry :=
  match registry.get? key with
  | none => (false, registry)
  | some entry => (!entry.cancellation, registry.insert key { entry with cancellation := true })

end Registry

end CallRegistry
