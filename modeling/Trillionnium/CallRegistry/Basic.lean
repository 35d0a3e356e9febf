import Trillionnium.Data.Fnv
import Trillionnium.Text.Checks

/-!
The data types of the owner-open call registry: limits, keys, requests, terminal records and the
entry of a call with its bounded history.
-/

namespace CallRegistry

inductive RegistryError where
  | invalidRequest (message : String)
  | notFound
  | callIdConflict
  | requestDigestMismatch
  | invalidTransition (message : String)
  | spawnGenerationMismatch
  | pidConflict
  | terminalConflict
  | capacityExhausted
  | generationExhausted
  | statePoisoned
  deriving DecidableEq, Repr

def RegistryError.toString : RegistryError → String
  | .invalidRequest message => s!"invalid owner-open call registry request: {message}"
  | .notFound => "owner-open call is not registered"
  | .callIdConflict => "owner-open call_id is already bound to different request bytes"
  | .requestDigestMismatch =>
    "owner-open call request digest does not match the registered call"
  | .invalidTransition message => s!"invalid owner-open call transition: {message}"
  | .spawnGenerationMismatch =>
    "owner-open spawn generation does not match the registered call"
  | .pidConflict => "owner-open call already records a different process identity"
  | .terminalConflict => "owner-open call already records a different terminal observation"
  | .capacityExhausted => "owner-open call registry capacity is exhausted"
  | .generationExhausted => "owner-open spawn generation is exhausted"
  | .statePoisoned => "owner-open call registry lock is poisoned"

def maxRegistryEntries : Nat := 1048576
def maxHistoryPerCall : Nat := 16384
def maxIdBytes : Nat := 4096
def maxToolBytes : Nat := 64 * 1024
def maxTargetBytes : Nat := 1048576
def maxHistorySlots : Nat := 16 * 1024 * 1024

structure RegistryLimits where
  maxEntries : Nat
  maxHistoryPerCall : Nat
  maxIdBytes : Nat
  maxToolBytes : Nat
  maxTargetBytes : Nat
  deriving DecidableEq, Repr

namespace RegistryLimits

def default : RegistryLimits where
  maxEntries := 4096
  maxHistoryPerCall := 64
  maxIdBytes := 256
  maxToolBytes := 256
  maxTargetBytes := 4096

def validate (limits : RegistryLimits) : Except RegistryError Unit :=
  if limits.maxEntries = 0
      ∨ limits.maxHistoryPerCall = 0
      ∨ limits.maxIdBytes = 0
      ∨ limits.maxToolBytes = 0
      ∨ limits.maxTargetBytes = 0 then
    .error (.invalidRequest "registry limits must be non-zero")
  else if limits.maxEntries > maxRegistryEntries
      ∨ limits.maxHistoryPerCall > CallRegistry.maxHistoryPerCall
      ∨ limits.maxIdBytes > CallRegistry.maxIdBytes
      ∨ limits.maxToolBytes > CallRegistry.maxToolBytes
      ∨ limits.maxTargetBytes > CallRegistry.maxTargetBytes then
    .error (.invalidRequest
      s!"registry limits exceed hard bounds (entries <= {maxRegistryEntries}, history <= {CallRegistry.maxHistoryPerCall}, id <= {CallRegistry.maxIdBytes}, tool <= {CallRegistry.maxToolBytes}, target <= {CallRegistry.maxTargetBytes})")
  -- The product of two bounded factors does not overflow, so the checked multiplication is exact.
  else if limits.maxEntries * limits.maxHistoryPerCall > maxHistorySlots then
    .error (.invalidRequest
      s!"registry entry/history product exceeds hard bound {maxHistorySlots}")
  else
    .ok ()

end RegistryLimits

structure TurnScope where
  sessionId : String
  profileId : String
  taskId : String
  turnId : String
  turnStreamId : String
  deriving DecidableEq, Repr

structure CallKey where
  scope : TurnScope
  callId : String
  deriving DecidableEq, Repr

structure CallRequest where
  requestSha256 : String
  bindingFingerprint : String
  tool : String
  targetId : Option String
  deriving DecidableEq, Repr

structure TerminalRecord where
  terminalKind : String
  exitCode : Option Int
  signal : Option Int
  observationSha256 : String
  stdoutBytes : Nat
  stderrBytes : Nat
  deriving DecidableEq, Repr

inductive CallEventKind where
  | accepted
  | spawnInhibited
  | spawnClaimed (generation : Nat)
  | pidObserved (generation pid : Nat)
  | cancelRequested
  | connectionLost
  | connectionAttached
  | terminalRecorded (generation : Nat) (terminal : TerminalRecord)
  deriving DecidableEq, Repr

structure CallEvent where
  seq : Nat
  kind : CallEventKind
  deriving DecidableEq, Repr

inductive EffectiveState where
  | accepted
  | cancelledBeforeSpawn
  | started (generation : Nat) (pid : Option Nat)
  | provenNotStartedAfterDisconnect
  | unknownAfterDisconnect (generation : Nat) (pid : Option Nat)
  | terminal (generation : Nat) (terminal : TerminalRecord)
  deriving DecidableEq, Repr

structure CallSnapshot where
  key : CallKey
  request : CallRequest
  state : EffectiveState
  cancellationRequested : Bool
  connectionLost : Bool
  earliestHistorySeq : Nat
  nextEventSeq : Nat
  deriving DecidableEq, Repr

inductive BeginDisposition where
  | new
  | existing
  deriving DecidableEq, Repr

structure BeginResult where
  disposition : BeginDisposition
  snapshot : CallSnapshot
  deriving DecidableEq, Repr

inductive SpawnClaim where
  | granted (generation : Nat) (snapshot : CallSnapshot)
  | existing (snapshot : CallSnapshot)
  | inhibited (snapshot : CallSnapshot)
  deriving DecidableEq, Repr

inductive MutationOutcome where
  | applied
  | idempotent
  deriving DecidableEq, Repr

inductive DispatchState where
  | accepted (spawnInhibited : Bool)
  | started (generation : Nat) (pid : Option Nat)
  | terminal (generation : Nat) (terminal : TerminalRecord)
  deriving DecidableEq, Repr

structure Entry where
  key : CallKey
  request : CallRequest
  dispatch : DispatchState
  connectionLost : Bool
  cancellation : Bool
  history : List CallEvent
  nextEventSeq : Nat
  deriving DecidableEq, Repr

namespace Entry

def effectiveState (entry : Entry) : EffectiveState :=
  match entry.dispatch with
  | .accepted spawnInhibited =>
    if entry.cancellation then
      .cancelledBeforeSpawn
    else if spawnInhibited || entry.connectionLost then
      .provenNotStartedAfterDisconnect
    else
      .accepted
  | .started generation pid =>
    if entry.connectionLost then
      .unknownAfterDisconnect generation pid
    else
      .started generation pid
  | .terminal generation terminal => .terminal generation terminal

def snapshot (entry : Entry) : CallSnapshot where
  key := entry.key
  request := entry.request
  state := entry.effectiveState
  cancellationRequested := entry.cancellation
  connectionLost := entry.connectionLost
  earliestHistorySeq := (entry.history.head?.map CallEvent.seq).getD entry.nextEventSeq
  nextEventSeq := entry.nextEventSeq

def u64Max : Nat := 2 ^ 64 - 1

def pushEvent (entry : Entry) (kind : CallEventKind) (maxHistory : Nat) : Entry :=
  let event := ⟨entry.nextEventSeq, kind⟩
  let history := if entry.history.length = maxHistory then entry.history.tail else entry.history
  { entry with
    nextEventSeq := min (entry.nextEventSeq + 1) u64Max
    history := history ++ [event] }

end Entry

end CallRegistry
