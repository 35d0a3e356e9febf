import Trillionnium.Data.Checked
import Trillionnium.Data.Except

/-!
The data types of the owner-open stream window: its configuration, the controls that a client sends
and the state that they act on.
-/

namespace StreamWindow

inductive StreamWindowError where
  | invalidConfiguration (message : String)
  | invalidRequest (message : String)
  | sequenceGap (expected received : Nat)
  | staleControl (sequence earliest : Nat)
  | controlConflict
  | creditOverflow
  | sequenceExhausted
  | closed
  | statePoisoned
  deriving DecidableEq, Repr

def StreamWindowError.toString : StreamWindowError → String
  | .invalidConfiguration message =>
    s!"invalid owner-open stream-window configuration: {message}"
  | .invalidRequest message => s!"invalid owner-open stream-window request: {message}"
  | .sequenceGap expected received =>
    s!"stream control sequence gap: expected {expected}, received {received}"
  | .staleControl sequence earliest =>
    s!"stream control sequence {sequence} is older than retained history {earliest}"
  | .controlConflict => "stream control sequence is already bound to different bytes"
  | .creditOverflow => "stream credit update exceeds the configured maximum"
  | .sequenceExhausted => "stream control sequence is exhausted"
  | .closed => "stream is already closed"
  | .statePoisoned => "owner-open stream-window state lock is poisoned"

abbrev Result := Except StreamWindowError

def maxStreamCreditBytes : Nat := 1024 * 1024 * 1024
def maxStreamChunkBytes : Nat := 16 * 1024 * 1024
def maxStreamControlHistory : Nat := 65536

structure StreamWindowConfig where
  initialCreditBytes : Nat
  maxCreditBytes : Nat
  maxChunkBytes : Nat
  maxControlHistory : Nat
  deriving DecidableEq, Repr

namespace StreamWindowConfig

def default : StreamWindowConfig where
  initialCreditBytes := 256 * 1024
  maxCreditBytes := 16 * 1024 * 1024
  maxChunkBytes := 1024 * 1024
  maxControlHistory := 256

def validate (config : StreamWindowConfig) : Result Unit :=
  if config.maxCreditBytes = 0
      ∨ config.maxChunkBytes = 0
      ∨ config.maxControlHistory = 0
      ∨ config.initialCreditBytes > config.maxCreditBytes
      ∨ config.maxChunkBytes > config.maxCreditBytes then
    .error (.invalidConfiguration "credit, chunk and history bounds are inconsistent")
  else if config.maxCreditBytes > maxStreamCreditBytes then
    .error (.invalidConfiguration
      s!"max_credit_bytes exceeds hard bound {maxStreamCreditBytes}")
  else if config.maxChunkBytes > maxStreamChunkBytes then
    .error (.invalidConfiguration s!"max_chunk_bytes exceeds hard bound {maxStreamChunkBytes}")
  else if config.maxControlHistory > maxStreamControlHistory then
    .error (.invalidConfiguration
      s!"max_control_history exceeds hard bound {maxStreamControlHistory}")
  else
    .ok ()

theorem initialCreditBytes_le {config : StreamWindowConfig} (h : config.validate = .ok ()) :
    config.initialCreditBytes ≤ config.maxCreditBytes := by
  unfold validate at h
  split at h
  . cases h
  next hbounds => omega

end StreamWindowConfig

inductive StreamControl where
  | windowUpdate (creditBytes : Nat)
  | pause
  | resume
  | close
  deriving DecidableEq, Repr

namespace StreamControl

def validate (command : StreamControl) (config : StreamWindowConfig) : Result Unit :=
  match command with
  | .windowUpdate creditBytes =>
    if creditBytes = 0 ∨ creditBytes > config.maxCreditBytes then
      .error (.invalidRequest "window update must be non-zero and no larger than max credit")
    else
      .ok ()
  | _ => .ok ()

def kind : StreamControl → String
  | .windowUpdate _ => "stream.window_update"
  | .pause => "stream.pause"
  | .resume => "stream.resume"
  | .close => "stream.close"

end StreamControl

structure ControlRecord where
  seq : Nat
  command : StreamControl
  deriving DecidableEq, Repr

inductive ApplyDisposition where
  | applied
  | existing
  deriving DecidableEq, Repr

structure StreamWindowSnapshot where
  availableCreditBytes : Nat
  maxCreditBytes : Nat
  maxChunkBytes : Nat
  paused : Bool
  closed : Bool
  totalGrantedBytes : Nat
  earliestControlSeq : Nat
  nextControlSeq : Nat
  deriving DecidableEq, Repr

structure ApplyResult where
  disposition : ApplyDisposition
  snapshot : StreamWindowSnapshot
  deriving DecidableEq, Repr

inductive BlockedReason where
  | paused
  | insufficientCredit (availableCreditBytes : Nat)
  | closed
  deriving DecidableEq, Repr

inductive ReserveDisposition where
  | granted (grantedBytes remainingCreditBytes : Nat)
  | blocked (reason : BlockedReason)
  deriving DecidableEq, Repr

structure ControlHistory where
  records : List ControlRecord
  inclusiveCursor : Nat
  nextCursor : Nat
  earliestCursor : Nat
  latestCursor : Nat
  hasMore : Bool
  deriving DecidableEq, Repr

structure State where
  availableCreditBytes : Nat
  paused : Bool
  closed : Bool
  totalGrantedBytes : Nat
  nextControlSeq : Nat
  history : List ControlRecord
  deriving DecidableEq, Repr

structure Window where
  config : StreamWindowConfig
  valid : config.validate = .ok ()
  state : State
  deriving DecidableEq

end StreamWindow
