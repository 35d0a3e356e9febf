import Trillionnium.Data.Fnv
import Trillionnium.Text.Checks

/-!
The data types of the owner-open job registry: limits, keys, requests, terminal records and the
entry of a job with its bounded history.
-/

namespace JobRegistry

inductive JobRegistryError where
  | invalidRequest (message : String)
  | notFound
  | jobIdConflict
  | requestDigestMismatch
  | invalidTransition (message : String)
  | spawnGenerationMismatch
  | pidConflict
  | terminalConflict
  | capacityExhausted
  | generationExhausted
  | statePoisoned
  deriving DecidableEq, Repr

def JobRegistryError.toString : JobRegistryError → String
  | .invalidRequest message => s!"invalid owner-open job request: {message}"
  | .notFound => "owner-open job is not registered"
  | .jobIdConflict => "owner-open job_id is already bound to different request bytes"
  | .requestDigestMismatch => "owner-open job request digest does not match"
  | .invalidTransition message => s!"invalid owner-open job transition: {message}"
  | .spawnGenerationMismatch => "owner-open job spawn generation does not match"
  | .pidConflict => "owner-open job process identity conflicts"
  | .terminalConflict => "owner-open job terminal observation conflicts"
  | .capacityExhausted => "owner-open job registry capacity is exhausted"
  | .generationExhausted => "owner-open job spawn generation is exhausted"
  | .statePoisoned => "owner-open job registry lock is poisoned"

def maxRegistryEntries : Nat := 1048576
def maxHistoryPerJob : Nat := 16384
def maxAttachmentsPerJob : Nat := 4096
def maxIdBytes : Nat := 4096
def maxToolBytes : Nat := 64 * 1024
def maxTargetBytes : Nat := 1048576
def maxHistorySlots : Nat := 16 * 1024 * 1024

structure JobRegistryLimits where
  maxEntries : Nat
  maxHistoryPerJob : Nat
  maxAttachmentsPerJob : Nat
  maxIdBytes : Nat
  maxToolBytes : Nat
  maxTargetBytes : Nat
  deriving DecidableEq, Repr

namespace JobRegistryLimits

def default : JobRegistryLimits where
  maxEntries := 256
  maxHistoryPerJob := 512
  maxAttachmentsPerJob := 32
  maxIdBytes := 256
  maxToolBytes := 256
  maxTargetBytes := 4096

def validate (limits : JobRegistryLimits) : Except JobRegistryError Unit :=
  if limits.maxEntries = 0
      ∨ limits.maxHistoryPerJob = 0
      ∨ limits.maxAttachmentsPerJob = 0
      ∨ limits.maxIdBytes = 0
      ∨ limits.maxToolBytes = 0
      ∨ limits.maxTargetBytes = 0 then
    .error (.invalidRequest "job registry limits must be non-zero")
  else if limits.maxEntries > maxRegistryEntries
      ∨ limits.maxHistoryPerJob > JobRegistry.maxHistoryPerJob
      ∨ limits.maxAttachmentsPerJob > JobRegistry.maxAttachmentsPerJob
      ∨ limits.maxIdBytes > JobRegistry.maxIdBytes
      ∨ limits.maxToolBytes > JobRegistry.maxToolBytes
      ∨ limits.maxTargetBytes > JobRegistry.maxTargetBytes then
    .error (.invalidRequest
      s!"job registry limits exceed hard bounds (entries <= {maxRegistryEntries}, history <= {JobRegistry.maxHistoryPerJob}, attachments <= {JobRegistry.maxAttachmentsPerJob}, id <= {JobRegistry.maxIdBytes}, tool <= {JobRegistry.maxToolBytes}, target <= {JobRegistry.maxTargetBytes})")
  -- The product of two bounded factors does not overflow, so the checked multiplication is exact.
  else if limits.maxEntries * limits.maxHistoryPerJob > maxHistorySlots then
    .error (.invalidRequest
      s!"job registry entry/history product exceeds hard bound {maxHistorySlots}")
  else
    .ok ()

end JobRegistryLimits

structure JobScope where
  sessionId : String
  profileId : String
  taskId : String
  turnId : String
  turnStreamId : String
  deriving DecidableEq, Repr

structure JobKey where
  scope : JobScope
  jobId : String
  deriving DecidableEq, Repr

structure JobRequest where
  requestSha256 : String
  bindingFingerprint : String
  tool : String
  mode : String
  targetId : Option String
  deriving DecidableEq, Repr

structure JobTerminal where
  terminalKind : String
  exitCode : Option Int
  signal : Option Int
  observationSha256 : String
  stdoutBytes : Nat
  stderrBytes : Nat
  deriving DecidableEq, Repr

inductive JobEffectiveState where
  | accepted
  | starting (generation : Nat)
  | running (generation pid : Nat) (pty : Bool)
  | provenNotStartedAfterRestart
  | unknownAfterRestart (generation : Nat) (pid : Option Nat) (pty : Option Bool)
  | terminal (generation : Nat) (terminal : JobTerminal)
  deriving DecidableEq, Repr

inductive JobEventKind where
  | accepted
  | spawnClaimed (generation : Nat)
  | started (generation pid : Nat) (pty : Bool)
  | outputObserved (generation outputSeq : Nat) (stream : String) (bytes : Nat) (sha256 : String)
  | inputWritten (bytes : Nat) (sha256 : String)
  | resized (rows cols : Nat)
  | stdinClosed
  | killRequested (signal : Int)
  | attached (attachmentId : String)
  | detached (attachmentId : String)
  | restartObserved
  | terminalRecorded (generation : Nat) (terminal : JobTerminal)
  deriving DecidableEq, Repr

structure JobEvent where
  seq : Nat
  event : JobEventKind
  deriving DecidableEq, Repr

structure JobSnapshot where
  key : JobKey
  request : JobRequest
  state : JobEffectiveState
  stdinClosed : Bool
  killRequested : Bool
  attachments : List String
  nextOutputSeq : Nat
  earliestHistorySeq : Nat
  nextEventSeq : Nat
  deriving DecidableEq, Repr

inductive BeginDisposition where
  | new
  | existing
  deriving DecidableEq, Repr

structure BeginResult where
  disposition : BeginDisposition
  snapshot : JobSnapshot
  deriving DecidableEq, Repr

inductive SpawnClaim where
  | granted (generation : Nat) (snapshot : JobSnapshot)
  | existing (snapshot : JobSnapshot)
  | inhibited (snapshot : JobSnapshot)
  deriving DecidableEq, Repr

inductive MutationOutcome where
  | applied
  | idempotent
  deriving DecidableEq, Repr

inductive DispatchState where
  | accepted (spawnInhibited : Bool)
  | claimed (generation : Nat) (restartUncertain : Bool)
  | running (generation pid : Nat) (pty restartUncertain : Bool)
  | terminal (generation : Nat) (terminal : JobTerminal)
  deriving DecidableEq, Repr

structure Entry where
  key : JobKey
  request : JobRequest
  dispatch : DispatchState
  stdinClosed : Bool
  killRequested : Bool
  attachments : Finset String
  nextOutputSeq : Nat
  history : List JobEvent
  nextEventSeq : Nat
  deriving DecidableEq

namespace Entry

def state (entry : Entry) : JobEffectiveState :=
  match entry.dispatch with
  | .accepted false => .accepted
  | .accepted true => .provenNotStartedAfterRestart
  | .claimed generation false => .starting generation
  | .claimed generation true => .unknownAfterRestart generation none none
  | .running generation pid pty false => .running generation pid pty
  | .running generation pid pty true => .unknownAfterRestart generation (some pid) (some pty)
  | .terminal generation terminal => .terminal generation terminal

def snapshot (entry : Entry) : JobSnapshot where
  key := entry.key
  request := entry.request
  state := entry.state
  stdinClosed := entry.stdinClosed
  killRequested := entry.killRequested
  attachments := entry.attachments.sort (· ≤ ·)
  nextOutputSeq := entry.nextOutputSeq
  earliestHistorySeq := (entry.history.head?.map JobEvent.seq).getD entry.nextEventSeq
  nextEventSeq := entry.nextEventSeq

def u64Max : Nat := 2 ^ 64 - 1

def push (entry : Entry) (event : JobEventKind) (limit : Nat) : Entry :=
  let history := entry.history ++ [⟨entry.nextEventSeq, event⟩]
  { entry with
    history := if history.length > limit then history.tail else history
    nextEventSeq := min (entry.nextEventSeq + 1) u64Max }

end Entry

end JobRegistry
