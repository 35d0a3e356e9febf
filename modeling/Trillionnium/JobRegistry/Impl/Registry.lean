import Trillionnium.Data.Sharded
import Trillionnium.JobRegistry.Basic

/-!
The operations of the owner-open job registry. As in the call registry, each operation runs under the
lock of its key's shard and updates each of the two shared counters at most once.
-/

namespace JobRegistry

open Sharded

def requireId (value label : String) (maximum : Nat) : Except JobRegistryError Unit :=
  if Text.isId value maximum then
    .ok ()
  else
    .error (.invalidRequest s!"{label} is empty, oversized or malformed")

def requireSha256 (value label : String) : Except JobRegistryError Unit :=
  if Text.isSha256 value then
    .ok ()
  else
    .error (.invalidRequest s!"{label} must be a lowercase SHA-256")

def requireText (value label : String) (maximum : Nat) (allowEmpty : Bool) :
    Except JobRegistryError Unit :=
  if Text.isText value maximum allowEmpty then
    .ok ()
  else
    .error (.invalidRequest s!"{label} is empty, oversized or malformed")

def validateTerminal (terminal : JobTerminal) : Except JobRegistryError Unit := do
  requireText terminal.terminalKind "terminal_kind" 128 false
  requireSha256 terminal.observationSha256 "observation_sha256"
  if terminal.exitCode.isSome && terminal.signal.isSome then
    .error (.invalidRequest "terminal cannot contain exit_code and signal")
  else if terminal.signal.any (fun signal => !(1 ≤ signal && signal ≤ 128)) then
    .error (.invalidRequest "terminal signal is outside the supported range")
  else
    .ok ()

def registryShardCount : Nat := 64

def registryShardHashVersion : UInt8 := 1

def shardIndex (key : JobKey) : Fin registryShardCount :=
  ⟨Fnv.stableShardIndex registryShardHashVersion registryShardCount "owner-open-job-registry"
      [key.scope.sessionId, key.scope.profileId, key.scope.taskId, key.scope.turnId,
        key.scope.turnStreamId, key.jobId],
    Fnv.stableShardIndex_lt (by decide)⟩

structure Registry where
  limits : JobRegistryLimits
  shards : Shards registryShardCount JobKey Entry
  entryCount : Nat
  nextSpawnGeneration : Nat

abbrev Result (α : Type) := Except JobRegistryError α

namespace Registry

def new (limits : JobRegistryLimits) : Result Registry := do
  limits.validate
  return {
    limits := limits
    shards := Sharded.empty
    entryCount := 0
    nextSpawnGeneration := 1
  }

def get? (registry : Registry) (key : JobKey) : Option Entry :=
  Sharded.get? shardIndex registry.shards key

def insert (registry : Registry) (key : JobKey) (entry : Entry) : Registry :=
  { registry with shards := Sharded.insert shardIndex registry.shards key entry }

def validateKey (registry : Registry) (key : JobKey) : Result Unit := do
  requireId key.scope.sessionId "session_id" registry.limits.maxIdBytes
  requireId key.scope.profileId "profile_id" registry.limits.maxIdBytes
  requireId key.scope.taskId "task_id" registry.limits.maxIdBytes
  requireId key.scope.turnId "turn_id" registry.limits.maxIdBytes
  requireId key.scope.turnStreamId "turn_stream_id" registry.limits.maxIdBytes
  requireId key.jobId "job_id" registry.limits.maxIdBytes

def validateRequest (registry : Registry) (request : JobRequest) : Result Unit := do
  requireSha256 request.requestSha256 "request_sha256"
  requireSha256 request.bindingFingerprint "binding_fingerprint"
  requireText request.tool "tool" registry.limits.maxToolBytes false
  requireText request.mode "mode" 64 false
  match request.targetId with
  | some targetId => requireText targetId "target_id" registry.limits.maxTargetBytes true
  | none => .ok ()

def reserveEntry (registry : Registry) : Result Registry :=
  if registry.entryCount ≥ registry.limits.maxEntries then
    .error .capacityExhausted
  else
    .ok { registry with entryCount := registry.entryCount + 1 }

def releaseEntry (registry : Registry) : Registry :=
  { registry with entryCount := Sharded.release registry.entryCount }

def remove (registry : Registry) (key : JobKey) : Registry :=
  releaseEntry { registry with shards := Sharded.erase shardIndex registry.shards key }

def allocateGeneration (registry : Registry) : Result (Nat × Registry) :=
  if registry.nextSpawnGeneration = 0 ∨ registry.nextSpawnGeneration = Entry.u64Max then
    .error .generationExhausted
  else
    .ok (registry.nextSpawnGeneration,
      { registry with nextSpawnGeneration := registry.nextSpawnGeneration + 1 })

def push (registry : Registry) (entry : Entry) (event : JobEventKind) : Entry :=
  entry.push event registry.limits.maxHistoryPerJob

def freshEntry (registry : Registry) (key : JobKey) (request : JobRequest) : Entry :=
  registry.push
    { key := key, request := request, dispatch := .accepted false, stdinClosed := false,
      killRequested := false, attachments := ∅, nextOutputSeq := 0, history := [],
      nextEventSeq := 0 }
    .accepted

def begin (registry : Registry) (key : JobKey) (request : JobRequest) :
    Result (BeginResult × Registry) := do
  registry.validateKey key
  registry.validateRequest request
  match registry.get? key with
  | some entry =>
    if entry.request ≠ request then
      .error .jobIdConflict
    else
      return (⟨.existing, entry.snapshot⟩, registry)
  | none =>
    let registry ← registry.reserveEntry
    let entry := registry.freshEntry key request
    return (⟨.new, entry.snapshot⟩, registry.insert key entry)

end Registry

def Entry.isUntouched (entry : Entry) : Bool :=
  entry.dispatch = .accepted false
    && !entry.stdinClosed
    && !entry.killRequested
    && entry.attachments = ∅
    && entry.history.length = 1
    && entry.history.head?.map JobEvent.event = some .accepted

namespace Registry

def rollbackAccept (registry : Registry) (key : JobKey) (request : JobRequest) :
    Result (Bool × Registry) :=
  match registry.get? key with
  | none => .ok (false, registry)
  | some entry =>
    if entry.request ≠ request then
      .error .jobIdConflict
    else if !entry.isUntouched then
      .error (.invalidTransition "only an untouched accepted job can be rolled back")
    else
      .ok (true, registry.remove key)

def claimSpawn (registry : Registry) (key : JobKey) (requestSha256 : String) :
    Result (SpawnClaim × Registry) := do
  requireSha256 requestSha256 "request_sha256"
  match registry.get? key with
  | none => .error .notFound
  | some entry =>
    if entry.request.requestSha256 ≠ requestSha256 then
      .error .requestDigestMismatch
    else
      match entry.dispatch with
      | .accepted true => return (.inhibited entry.snapshot, registry)
      | .claimed _ _ => return (.existing entry.snapshot, registry)
      | .running _ _ _ _ => return (.existing entry.snapshot, registry)
      | .terminal _ _ => return (.existing entry.snapshot, registry)
      | .accepted false =>
        let (generation, registry) ← registry.allocateGeneration
        let entry := registry.push { entry with dispatch := .claimed generation false }
          (.spawnClaimed generation)
        return (.granted generation entry.snapshot, registry.insert key entry)

def mutate {α : Type} (registry : Registry) (key : JobKey) (change : Entry → Result (α × Entry)) :
    Result (α × Registry) :=
  match registry.get? key with
  | none => .error .notFound
  | some entry => do
    let (x, entry) ← change entry
    return (x, registry.insert key entry)

def recordStarted (registry : Registry) (key : JobKey) (generation pid : Nat) (pty : Bool) :
    Result (MutationOutcome × Registry) :=
  if pid = 0 then
    .error (.invalidRequest "pid must be non-zero")
  else
    registry.mutate key fun entry =>
      match entry.dispatch with
      | .claimed expected restartUncertain =>
        if restartUncertain = false ∧ expected = generation then
          .ok (.applied,
            registry.push { entry with dispatch := .running generation pid pty false }
              (.started generation pid pty))
        else
          .error .spawnGenerationMismatch
      | .running expected existingPid existingPty _ =>
        if expected = generation ∧ existingPid = pid ∧ existingPty = pty then
          .ok (.idempotent, entry)
        else
          .error .pidConflict
      | .accepted _ => .error (.invalidTransition "job start was not claimed")
      | .terminal _ _ => .error (.invalidTransition "terminal job cannot start")

def recordOutput (registry : Registry) (key : JobKey) (generation : Nat) (stream : String)
    (bytes : Nat) (sha256 : String) : Result (Nat × Registry) := do
  requireText stream "stream" 64 false
  requireSha256 sha256 "sha256"
  registry.mutate key fun entry =>
    match entry.dispatch with
    | .running expected _ _ restartUncertain =>
      if restartUncertain = false ∧ expected = generation then
        .ok (entry.nextOutputSeq,
          registry.push { entry with nextOutputSeq := min (entry.nextOutputSeq + 1) Entry.u64Max }
            (.outputObserved generation entry.nextOutputSeq stream bytes sha256))
      else
        .error .spawnGenerationMismatch
    | .claimed _ _ => .error .spawnGenerationMismatch
    | .accepted _ => .error (.invalidTransition "cannot record output before job start")
    | .terminal _ _ => .error (.invalidTransition "cannot record output after terminal")

end Registry

def requireLive (entry : Entry) : Result Unit :=
  match entry.dispatch with
  | .running _ _ _ false => .ok ()
  | .running _ _ _ true =>
    .error (.invalidTransition "restart-uncertain job cannot accept live control")
  | .accepted _ => .error (.invalidTransition "job has not started")
  | .claimed _ _ => .error (.invalidTransition "job has not started")
  | .terminal _ _ => .error (.invalidTransition "job is terminal")

namespace Registry

def recordInput (registry : Registry) (key : JobKey) (bytes : Nat) (sha256 : String) :
    Result (MutationOutcome × Registry) := do
  requireSha256 sha256 "sha256"
  registry.mutate key fun entry => do
    requireLive entry
    if entry.stdinClosed then
      .error (.invalidTransition "stdin is already closed")
    else
      return (.applied, registry.push entry (.inputWritten bytes sha256))

def recordResize (registry : Registry) (key : JobKey) (rows cols : Nat) :
    Result (MutationOutcome × Registry) :=
  if rows = 0 ∨ cols = 0 then
    .error (.invalidRequest "PTY rows and cols must be non-zero")
  else
    registry.mutate key fun entry =>
      match entry.dispatch with
      | .running _ _ true false => .ok (.applied, registry.push entry (.resized rows cols))
      | .running _ _ false _ => .error (.invalidTransition "non-PTY job cannot resize")
      | _ => .error (.invalidTransition "job is not live")

def closeStdin (registry : Registry) (key : JobKey) : Result (MutationOutcome × Registry) :=
  registry.mutate key fun entry => do
    requireLive entry
    if entry.stdinClosed then
      return (.idempotent, entry)
    else
      return (.applied, registry.push { entry with stdinClosed := true } .stdinClosed)

def requestKill (registry : Registry) (key : JobKey) (signal : Int) :
    Result (MutationOutcome × Registry) :=
  if ¬ (1 ≤ signal ∧ signal ≤ 128) then
    .error (.invalidRequest "kill signal is outside the supported range")
  else
    registry.mutate key fun entry => do
      requireLive entry
      return (.applied, registry.push { entry with killRequested := true } (.killRequested signal))

def attach (registry : Registry) (key : JobKey) (attachmentId : String) :
    Result (MutationOutcome × Registry) := do
  requireId attachmentId "attachment_id" registry.limits.maxIdBytes
  registry.mutate key fun entry =>
    if attachmentId ∈ entry.attachments then
      .ok (.idempotent, entry)
    else if entry.attachments.card ≥ registry.limits.maxAttachmentsPerJob then
      .error .capacityExhausted
    else
      .ok (.applied,
        registry.push { entry with attachments := Insert.insert attachmentId entry.attachments }
          (.attached attachmentId))

def detach (registry : Registry) (key : JobKey) (attachmentId : String) :
    Result (MutationOutcome × Registry) :=
  registry.mutate key fun entry =>
    if attachmentId ∈ entry.attachments then
      .ok (.applied,
        registry.push { entry with attachments := entry.attachments.erase attachmentId }
          (.detached attachmentId))
    else
      .ok (.idempotent, entry)

end Registry

def DispatchState.isUncertain : DispatchState → Bool
  | .accepted spawnInhibited => spawnInhibited
  | .claimed _ restartUncertain => restartUncertain
  | .running _ _ _ restartUncertain => restartUncertain
  | .terminal _ _ => true

def DispatchState.markUncertain : DispatchState → DispatchState
  | .accepted _ => .accepted true
  | .claimed generation _ => .claimed generation true
  | .running generation pid pty _ => .running generation pid pty true
  | .terminal generation record => .terminal generation record

namespace Registry

def markRestartUncertain (registry : Registry) (key : JobKey) : Result (JobSnapshot × Registry) :=
  registry.mutate key fun entry =>
    if entry.dispatch.isUncertain then
      .ok (entry.snapshot, entry)
    else
      let entry := registry.push { entry with dispatch := entry.dispatch.markUncertain }
        .restartObserved
      .ok (entry.snapshot, entry)

def complete (registry : Registry) (key : JobKey) (generation : Nat) (terminal : JobTerminal) :
    Result (MutationOutcome × Registry) := do
  validateTerminal terminal
  registry.mutate key fun entry =>
    match entry.dispatch with
    | .running expected _ _ _ =>
      if expected = generation then
        .ok (.applied,
          registry.push { entry with dispatch := .terminal generation terminal }
            (.terminalRecorded generation terminal))
      else
        .error .spawnGenerationMismatch
    | .terminal expected existing =>
      if expected = generation ∧ existing = terminal then
        .ok (.idempotent, entry)
      else
        .error .terminalConflict
    | .accepted _ => .error (.invalidTransition "cannot complete job before start")
    | .claimed _ _ => .error (.invalidTransition "cannot complete job before start")

def snapshot (registry : Registry) (key : JobKey) : Result JobSnapshot :=
  match registry.get? key with
  | none => .error .notFound
  | some entry => .ok entry.snapshot

def historyFrom (registry : Registry) (key : JobKey) (inclusiveSeq : Nat) :
    Result (List JobEvent) :=
  match registry.get? key with
  | none => .error .notFound
  | some entry => .ok (entry.history.filter (fun event => event.seq ≥ inclusiveSeq))

end Registry

def Entry.isTerminal (entry : Entry) : Bool :=
  match entry.dispatch with
  | .terminal _ _ => true
  | _ => false

namespace Registry

def removeTerminal (registry : Registry) (key : JobKey) : Bool × Registry :=
  if (registry.get? key).any Entry.isTerminal then
    (true, registry.remove key)
  else
    (false, registry)

end Registry

end JobRegistry
