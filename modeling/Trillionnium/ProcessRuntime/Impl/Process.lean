import Trillionnium.Concurrent.Prog
import Trillionnium.ProcessRuntime.Impl.Validate

/-!
The execution of a process. What the operating system, the clock, the cancellation token and the
reader threads answer are the results of actions.
-/

namespace ProcessRuntime

open Concurrent
open Json (Bytes)

def processInheritedEnvAllowlist : List String := [
  "PATH", "HOME", "LANG", "LC_ALL", "TERM", "NO_COLOR", "ADB_SERVER_SOCKET", "SSL_CERT_FILE",
  "SSL_CERT_DIR", "HTTP_PROXY", "HTTPS_PROXY", "ALL_PROXY", "NO_PROXY", "http_proxy",
  "https_proxy", "all_proxy", "no_proxy"]

structure Command where
  program : Bytes
  inherited : List String
  args : List Bytes
  ioMode : ProcessIoMode
  cwd : Option Bytes
  env : EnvironmentDelta

inductive Stdio where
  | stdin
  | stdout
  | stderr

def Stdio.name : Stdio → String
  | .stdin => "stdin"
  | .stdout => "stdout"
  | .stderr => "stderr"

inductive SpawnErrorKind where
  | timedOut
  | canceled
  | notFound
  | other

structure SpawnError where
  kind : SpawnErrorKind
  text : String

inductive Received where
  | chunk (stream : StreamKind) (bytes : Bytes)
  | eof (stream : StreamKind)
  | error (stream : StreamKind) (text : String)
  | timeout
  | disconnected

inductive Probe where
  | leaderExit
  | cleanup

inductive Act where
  | emit (event : ExecutionEvent)
  | cancelled
  | expired
  | elapsed
  | openPty (size : PtySize)
  | cloneSlave (stdio : Stdio)
  | spawn (command : Command)
  | captureIdentity (pid : Nat)
  | setupWorkers (stdin : Bytes)
  | tryWait
  | groupExists (probe : Probe)
  | terminate
  | postExitExpired
  | receive
  | retireReader (stdio : Stdio)
  | retireStdinWriter

abbrev Act.Res : Act → Type
  | .emit _ => Unit
  | .cancelled => Bool
  | .expired => Bool
  | .elapsed => Nat
  | .openPty _ => Except String Unit
  | .cloneSlave _ => Except String Unit
  | .spawn _ => Except SpawnError Nat
  | .captureIdentity _ => Except String Unit
  | .setupWorkers _ => Except String Unit
  | .tryWait => Except String (Option ExitStatus)
  | .groupExists _ => Except String Bool
  | .terminate => Except String ExitStatus
  | .postExitExpired => Bool
  | .receive => Received
  | .retireReader _ => Option Unit
  | .retireStdinWriter => Option (Option String)

abbrev Run := Prog Act Act.Res

abbrev perform (a : Act) : Run a.Res := .perform a

def joinError (existing : Option String) (next : String) : String :=
  match existing with
  | some existing => s!"{existing}; {next}"
  | none => next

structure Progress where
  sequence : Nat
  stdoutEof : Bool
  stderrEof : Bool
  stdoutBytes : Nat
  stderrBytes : Nat
  childStatus : Option ExitStatus
  forcedKind : Option TerminalKind
  runtimeError : Option String
  terminationAttempted : Bool

namespace Progress

def start (spec : ProcessSpec) (sequence : Nat) : Progress where
  sequence := sequence
  stdoutEof := false
  -- There is one reader for a terminal, so its standard error is at the end from the start.
  stderrEof := spec.ioMode ≠ .pipe
  stdoutBytes := 0
  stderrBytes := 0
  childStatus := none
  forcedKind := none
  runtimeError := none
  terminationAttempted := false

def force (progress : Progress) (kind : TerminalKind) : Progress :=
  { progress with forcedKind := some (progress.forcedKind.getD kind) }

def fail (progress : Progress) : Progress := { progress with forcedKind := some .ioError }

def note (progress : Progress) (error : String) : Progress :=
  { progress with runtimeError := some (joinError progress.runtimeError error) }

def setStatus (progress : Progress) (status : Option ExitStatus) : Progress :=
  { progress with childStatus := status }

def setEof (progress : Progress) (stream : StreamKind) : Progress :=
  if stream.isStdout then
    { progress with stdoutEof := true }
  else
    { progress with stderrEof := true }

def count (progress : Progress) (stream : StreamKind) (bytes : Nat) : Progress :=
  if stream.isStdout then
    { progress with stdoutBytes := progress.stdoutBytes + bytes }
  else
    { progress with stderrBytes := progress.stderrBytes + bytes }

def isDrained (progress : Progress) : Bool :=
  progress.childStatus.isSome && progress.stdoutEof && progress.stderrEof

end Progress

section Run

variable (spec : ProcessSpec) (limits : MechanicalLimits)

def emit (sequence : Nat) (kind : ExecutionEventKind) : Run Nat := do
  let elapsedMs ← perform .elapsed
  perform (.emit {
    callId := spec.callId
    targetId := spec.targetId
    tool := spec.tool
    seq := sequence
    elapsedMs := elapsedMs
    kind := kind
  })
  return min (sequence + 1) Checked.u64Max

def stop (sequence : Nat) (kind : TerminalKind) (error : String) : Run ExecutionTerminal := do
  let elapsedMs ← perform .elapsed
  let terminal := {
    kind := kind
    exitCode := none
    signal := none
    stdoutBytes := 0
    stderrBytes := 0
    outputTruncated := false
    elapsedMs := elapsedMs
    error := some error
  }
  let _ ← emit spec sequence (.terminal terminal)
  return terminal

def observeExit (progress : Progress) : Run Progress := do
  if progress.childStatus.isSome then
    return progress
  match ← perform .tryWait with
  | .ok (some status) =>
    let progress := progress.setStatus (some status)
    match ← perform (.groupExists .leaderExit) with
    | .ok true => return (progress.force .ioError).note "leader_exited_with_live_descendants"
    | .ok false => return progress
    | .error error => return (progress.force .ioError).note error
  | .ok none => return progress
  | .error error => return (progress.note s!"child_status_error: {error}").force .ioError

def observeStop (progress : Progress) : Run Progress := do
  if progress.childStatus.isSome || progress.forcedKind.isSome then
    return progress
  if ← perform .cancelled then
    return progress.force .cancelled
  if ← perform .expired then
    return progress.force .timedOut
  return progress

def terminateProcessGroup (progress : Progress) : Run Progress := do
  match ← perform .terminate with
  | .ok status => return progress.setStatus (some status)
  | .error error =>
    let status ← perform .tryWait
    return ((progress.note error).fail).setStatus (status.toOption.join)

def terminateForced (progress : Progress) : Run Progress := do
  if progress.forcedKind.isSome && !progress.terminationAttempted then
    terminateProcessGroup { progress with terminationAttempted := true }
  else
    return progress

def deliverChunk (progress : Progress) (stream : StreamKind) (bytes : Bytes) (delivered : Nat) :
    Run Progress := do
  if delivered > 0 then
    let sequence ← emit spec progress.sequence (.output stream (bytes.take delivered))
    return { progress.count stream delivered with sequence := sequence }
  else
    return progress

def receiveChunk (progress : Progress) (stream : StreamKind) (bytes : Bytes) : Run Progress := do
  let used := progress.stdoutBytes + progress.stderrBytes
  let remaining := limits.maxOutputBytes - used
  let delivered := min bytes.length remaining
  let progress ← deliverChunk spec progress stream bytes delivered
  if delivered < bytes.length ∨ remaining = 0 then
    return progress.force .outputLimitExceeded
  else
    return progress

def receive (progress : Progress) : Run Progress := do
  match ← perform .receive with
  | .chunk stream bytes => receiveChunk spec limits progress stream bytes
  | .eof stream => return progress.setEof stream
  | .error stream error => return ((progress.note error).force .ioError).setEof stream
  | .timeout => return progress
  | .disconnected => return { progress with stdoutEof := true, stderrEof := true }

def graceExpired (progress : Progress) : Run Bool := do
  if progress.childStatus.isSome then
    perform .postExitExpired
  else
    return false

def round (progress : Progress) : Run (Progress ⊕ Progress) := do
  let progress ← observeExit progress
  let progress ← observeStop progress
  let progress ← terminateForced progress
  if progress.isDrained then
    return .inr progress
  else if ← graceExpired progress then
    return .inr (progress.note "output_pipes_remained_open_after_leader_exit").fail
  else
    let progress ← receive spec limits progress
    return .inl progress

def retireReader (progress : Progress) (stdio : Stdio) : Run Progress := do
  match ← perform (.retireReader stdio) with
  | some () => return progress
  | none => return (progress.note s!"{stdio.name}_reader_panicked").fail

def retireStdinWriter (progress : Progress) : Run Progress := do
  match ← perform .retireStdinWriter with
  | some (some error) => return progress.note error
  | some none => return progress
  | none => return (progress.note "stdin_writer_panicked").fail

def retireWorkers (progress : Progress) : Run Progress := do
  let progress ← retireReader progress .stdout
  let progress ← match spec.ioMode with
    | .pipe => retireReader progress .stderr
    | .pty _ => pure progress
  retireStdinWriter progress

def ensureTerminated (progress : Progress) : Run Progress := do
  if progress.childStatus.isNone then
    terminateProcessGroup progress
  else
    return progress

def finalStatus (progress : Progress) : Run Progress := do
  if progress.childStatus.isNone then
    let status ← perform .tryWait
    return progress.setStatus status.toOption.join
  else
    return progress

def observeCleanup (progress : Progress) : Run Progress := do
  if progress.childStatus.isSome then
    match ← perform (.groupExists .cleanup) with
    | .ok false => return progress
    | .ok true => return (progress.note "process_group_remained_live_after_cleanup").fail
    | .error error => return (progress.note error).fail
  else
    return progress

def Progress.statusKind (progress : Progress) : TerminalKind :=
  progress.forcedKind.getD <|
    match progress.childStatus.bind ExitStatus.signal with
    | some _ => .signaled
    | none => .exited

def Progress.terminal (progress : Progress) (elapsedMs : Nat) : ExecutionTerminal where
  kind := progress.statusKind
  exitCode := progress.childStatus.bind ExitStatus.code
  signal := progress.childStatus.bind ExitStatus.signal
  stdoutBytes := progress.stdoutBytes
  stderrBytes := progress.stderrBytes
  outputTruncated := progress.statusKind = .outputLimitExceeded
  elapsedMs := elapsedMs
  error := progress.runtimeError

def finish (progress : Progress) : Run ExecutionTerminal := do
  let progress ← ensureTerminated progress
  let progress ← retireWorkers spec progress
  let progress ← finalStatus progress
  let progress ← observeCleanup progress
  let elapsedMs ← perform .elapsed
  let terminal := progress.terminal elapsedMs
  let _ ← emit spec progress.sequence (.terminal terminal)
  return terminal

def superviseChild (rounds : Nat) (sequence pid : Nat) : Run ExecutionTerminal := do
  match ← perform (.captureIdentity pid) with
  | .error error => stop spec sequence .ioError s!"child_identity_capture_failed: {error}"
  | .ok () =>
    let sequence ← emit spec sequence (.started pid)
    match ← perform (.setupWorkers spec.stdin) with
    | .error error =>
      match ← perform .terminate with
      | .ok _ => stop spec sequence .ioError s!"process_io_setup_failed: {error}"
      | .error cleanup =>
        stop spec sequence .ioError s!"process_io_setup_failed: {error}; {cleanup}"
    | .ok () =>
      let progress ← .iterate (round spec limits) rounds (.start spec sequence)
      finish spec progress

def ProcessSpec.command : Command where
  program := spec.program
  inherited := processInheritedEnvAllowlist
  args := spec.args
  ioMode := spec.ioMode
  cwd := spec.cwd
  env := spec.env

def spawnFailure (error : SpawnError) : TerminalKind × String :=
  match error.kind with
  | .timedOut => (.timedOut, error.text)
  | .canceled => (.cancelled, error.text)
  | .notFound =>
    if spec.tool = .adbExec then
      (.transportUnavailable, s!"adb transport unavailable: {error.text}")
    else
      (.spawnFailed, error.text)
  | .other => (.spawnFailed, error.text)

def launch (rounds : Nat) (sequence : Nat) : Run ExecutionTerminal := do
  if ← perform .cancelled then
    stop spec sequence .cancelled "operation stopped before process spawn"
  else if ← perform .expired then
    stop spec sequence .timedOut "operation stopped before process spawn"
  else
    match ← perform (.spawn spec.command) with
    | .error error => stop spec sequence (spawnFailure spec error).1 (spawnFailure spec error).2
    | .ok pid => superviseChild spec limits rounds sequence pid

def cloneSlave (sequence : Nat) (stdio : Stdio) (next : Run ExecutionTerminal) :
    Run ExecutionTerminal := do
  match ← perform (.cloneSlave stdio) with
  | .error error => stop spec sequence .ioError s!"pty_{stdio.name}_clone_failed: {error}"
  | .ok () => next

def executeProcess (rounds : Nat) : Run ExecutionTerminal := do
  let sequence ← emit spec 0 .accepted
  if spec.tool = .adbExec ∧ spec.program.isEmpty then
    stop spec sequence .transportUnavailable
      "adb transport unavailable: executable is not configured"
  else
    match spec.ioMode with
    | .pipe => launch spec limits rounds sequence
    | .pty size =>
      match ← perform (.openPty size) with
      | .error error => stop spec sequence .ioError s!"pty_open_failed: {error}"
      | .ok () =>
        cloneSlave spec sequence .stdin <|
        cloneSlave spec sequence .stdout <|
        cloneSlave spec sequence .stderr <|
        launch spec limits rounds sequence

end Run

end ProcessRuntime
