import Trillionnium.Data.BTreeMap
import Trillionnium.Data.Except
import Trillionnium.Text.Checks

/-!
The data types of the owner-open process runtime: mechanical limits, requests, process specifications
and the events of an execution. Durations are in nanoseconds.
-/

namespace ProcessRuntime

open Json (Bytes)

inductive RuntimeError where
  | invalidRequest (message : String)
  deriving DecidableEq, Repr

def RuntimeError.toString : RuntimeError → String
  | .invalidRequest message => s!"invalid owner-open process request: {message}"

abbrev Result (α : Type) := Except RuntimeError α

def invalid (message : String) : RuntimeError := .invalidRequest message

def reject (c : Prop) [Decidable c] (message : String) : Result Unit :=
  if c then .error (invalid message) else .ok ()

theorem reject_eq_ok {c : Prop} [Decidable c] {message : String} :
    reject c message = .ok () ↔ ¬c := by
  unfold reject
  split
  next h => simp [h]
  next h => simp [h]

def fromMillis (n : Nat) : Nat := n * 1000000
def fromSecs (n : Nat) : Nat := n * 1000000000

def maxRuntimeCallIdBytes : Nat := 4 * 1024
def maxRuntimeTargetIdBytes : Nat := 1024 * 1024
def maxRuntimeArgvItems : Nat := 65536
def maxRuntimeArgumentBytes : Nat := 1024 * 1024
def maxRuntimeTotalArgumentBytes : Nat := 16 * 1024 * 1024
def maxRuntimeEnvironmentItems : Nat := 65536
def maxRuntimeEnvironmentBytes : Nat := 16 * 1024 * 1024
def maxRuntimeCwdBytes : Nat := 1024 * 1024
def maxRuntimeStdinBytes : Nat := 256 * 1024 * 1024
def maxRuntimeOutputBytes : Nat := 1024 * 1024 * 1024
def maxRuntimeStreamChunkBytes : Nat := 16 * 1024 * 1024
def maxRuntimeReaderQueueDepth : Nat := 65536
def maxRuntimeReaderBufferBytes : Nat := 1024 * 1024 * 1024
def maxRuntimeDefaultTimeout : Nat := fromSecs (24 * 60 * 60)
def maxRuntimeRequestTimeout : Nat := fromSecs (24 * 60 * 60)
def maxRuntimePollInterval : Nat := fromSecs 1
def maxRuntimeTerminateGrace : Nat := fromSecs 60

structure MechanicalLimits where
  maxCallIdBytes : Nat
  maxTargetIdBytes : Nat
  maxArgvItems : Nat
  maxArgumentBytes : Nat
  maxTotalArgumentBytes : Nat
  maxEnvironmentItems : Nat
  maxEnvironmentBytes : Nat
  maxCwdBytes : Nat
  maxStdinBytes : Nat
  maxOutputBytes : Nat
  streamChunkBytes : Nat
  readerQueueDepth : Nat
  defaultTimeout : Nat
  pollInterval : Nat
  terminateGrace : Nat
  deriving DecidableEq, Repr

namespace MechanicalLimits

def default : MechanicalLimits where
  maxCallIdBytes := 128
  maxTargetIdBytes := 256
  maxArgvItems := 4096
  maxArgumentBytes := 64 * 1024
  maxTotalArgumentBytes := 256 * 1024
  maxEnvironmentItems := 4096
  maxEnvironmentBytes := 512 * 1024
  maxCwdBytes := 16 * 1024
  maxStdinBytes := 16 * 1024 * 1024
  maxOutputBytes := 16 * 1024 * 1024
  streamChunkBytes := 16 * 1024
  readerQueueDepth := 32
  defaultTimeout := fromSecs 90
  pollInterval := fromMillis 10
  terminateGrace := fromMillis 250

def bounds (limits : MechanicalLimits) : List (String × Nat × Nat) := [
  ("max_call_id_bytes", limits.maxCallIdBytes, maxRuntimeCallIdBytes),
  ("max_target_id_bytes", limits.maxTargetIdBytes, maxRuntimeTargetIdBytes),
  ("max_argv_items", limits.maxArgvItems, maxRuntimeArgvItems),
  ("max_argument_bytes", limits.maxArgumentBytes, maxRuntimeArgumentBytes),
  ("max_total_argument_bytes", limits.maxTotalArgumentBytes, maxRuntimeTotalArgumentBytes),
  ("max_environment_items", limits.maxEnvironmentItems, maxRuntimeEnvironmentItems),
  ("max_environment_bytes", limits.maxEnvironmentBytes, maxRuntimeEnvironmentBytes),
  ("max_cwd_bytes", limits.maxCwdBytes, maxRuntimeCwdBytes),
  ("max_stdin_bytes", limits.maxStdinBytes, maxRuntimeStdinBytes),
  ("max_output_bytes", limits.maxOutputBytes, maxRuntimeOutputBytes),
  ("stream_chunk_bytes", limits.streamChunkBytes, maxRuntimeStreamChunkBytes),
  ("reader_queue_depth", limits.readerQueueDepth, maxRuntimeReaderQueueDepth)]

def durationBounds (limits : MechanicalLimits) : List (String × Nat × Nat × String) := [
  ("default_timeout", limits.defaultTimeout, maxRuntimeDefaultTimeout, "86400s"),
  ("poll_interval", limits.pollInterval, maxRuntimePollInterval, "1s"),
  ("terminate_grace", limits.terminateGrace, maxRuntimeTerminateGrace, "60s")]

def isZero (limits : MechanicalLimits) : Bool :=
  limits.bounds.any (fun (_, value, _) => value == 0)
    || limits.durationBounds.any (fun (_, value, _, _) => value == 0)

def validate (limits : MechanicalLimits) : Result Unit := do
  reject limits.isZero "mechanical limits must be non-zero"
  limits.bounds.forM fun (name, value, maximum) =>
    reject (value > maximum) s!"{name} exceeds hard bound {maximum}"
  limits.durationBounds.forM fun (name, value, maximum, text) =>
    reject (value > maximum) s!"{name} exceeds hard bound {text}"
  reject (limits.maxArgumentBytes > limits.maxTotalArgumentBytes)
    "max_argument_bytes cannot exceed max_total_argument_bytes"
  reject (limits.streamChunkBytes > limits.maxOutputBytes)
    "stream_chunk_bytes cannot exceed max_output_bytes"
  -- The product of two bounded factors does not overflow, so the checked multiplication is exact.
  reject (limits.streamChunkBytes * limits.readerQueueDepth > maxRuntimeReaderBufferBytes)
    s!"stream_chunk_bytes * reader_queue_depth exceeds hard bound {maxRuntimeReaderBufferBytes}"

theorem maxOutputBytes_le_of_validate {limits : MechanicalLimits} (h : limits.validate = .ok ()) :
    limits.maxOutputBytes ≤ maxRuntimeOutputBytes := by
  unfold validate at h
  obtain ⟨_, _, h⟩ := Except.bind_eq_ok.mp h
  obtain ⟨_, hbounds, _⟩ := Except.bind_eq_ok.mp h
  have hmem : ("max_output_bytes", limits.maxOutputBytes, maxRuntimeOutputBytes) ∈ limits.bounds := by
    simp [bounds]
  exact Nat.not_lt.mp (reject_eq_ok.mp (Except.forM_eq_ok.mp hbounds _ hmem))

end MechanicalLimits

inductive ToolKind where
  | shellExec
  | adbExec
  deriving DecidableEq, Repr

def ToolKind.asStr : ToolKind → String
  | .shellExec => "shell.exec"
  | .adbExec => "adb.exec"

inductive ShellInvocation where
  | command (command : String)
  | argv (argv : List String)
  deriving DecidableEq, Repr

structure PtySize where
  rows : Nat
  cols : Nat
  deriving DecidableEq, Repr

def PtySize.validate (size : PtySize) : Result Unit :=
  reject (size.rows = 0 ∨ size.cols = 0) "PTY rows and cols must be non-zero"

abbrev EnvironmentDelta := BTreeMap String (Option String)

structure ShellExecRequest where
  callId : String
  targetId : Option String
  invocation : ShellInvocation
  shellExecutable : Bytes
  cwd : Option Bytes
  env : EnvironmentDelta
  stdin : Bytes
  timeout : Option Nat

structure AdbExecRequest where
  callId : String
  targetId : Option String
  argv : List String
  adbExecutable : Bytes
  cwd : Option Bytes
  env : EnvironmentDelta
  stdin : Bytes
  timeout : Option Nat

inductive StreamKind where
  | stdout
  | stderr
  | pty
  deriving DecidableEq, Repr

def StreamKind.isStdout : StreamKind → Bool
  | .stdout => true
  | .stderr => false
  | .pty => true

inductive TerminalKind where
  | exited
  | signaled
  | timedOut
  | cancelled
  | outputLimitExceeded
  | transportUnavailable
  | spawnFailed
  | ioError
  deriving DecidableEq, Repr

def TerminalKind.asStr : TerminalKind → String
  | .exited => "exited"
  | .signaled => "signaled"
  | .timedOut => "timed_out"
  | .cancelled => "client_cancelled"
  | .outputLimitExceeded => "resource_exhausted"
  | .transportUnavailable => "transport_unavailable"
  | .spawnFailed => "spawn_failed"
  | .ioError => "io_error"

structure ExecutionTerminal where
  kind : TerminalKind
  exitCode : Option Int
  signal : Option Int
  stdoutBytes : Nat
  stderrBytes : Nat
  outputTruncated : Bool
  elapsedMs : Nat
  error : Option String
  deriving DecidableEq, Repr

inductive ExecutionEventKind where
  | accepted
  | started (pid : Nat)
  | output (stream : StreamKind) (bytes : Bytes)
  | terminal (terminal : ExecutionTerminal)
  deriving DecidableEq, Repr

structure ExecutionEvent where
  callId : String
  targetId : Option String
  tool : ToolKind
  seq : Nat
  elapsedMs : Nat
  kind : ExecutionEventKind
  deriving DecidableEq, Repr

inductive ProcessIoMode where
  | pipe
  | pty (size : PtySize)
  deriving DecidableEq, Repr

structure ProcessSpec where
  callId : String
  targetId : Option String
  tool : ToolKind
  program : Bytes
  args : List Bytes
  cwd : Option Bytes
  env : EnvironmentDelta
  stdin : Bytes
  timeout : Nat
  ioMode : ProcessIoMode

inductive ExitStatus where
  | exited (code : Int)
  | signaled (signal : Int) (hsignal : 1 ≤ signal ∧ signal ≤ 64)

namespace ExitStatus

def code : ExitStatus → Option Int
  | .exited code => some code
  | .signaled _ _ => none

def signal : ExitStatus → Option Int
  | .exited _ => none
  | .signaled signal _ => some signal

end ExitStatus

end ProcessRuntime
