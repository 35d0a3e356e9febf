import Trillionnium.ProcessRuntime.Impl.Process

/-!
The entry points of the process runtime. The acceptance is published before anything of the process is
prepared.
-/

namespace ProcessRuntime

open Concurrent

def executeSpec (spec : Result ProcessSpec) (limits : MechanicalLimits) (rounds : Nat) :
    Run (Result ExecutionTerminal) :=
  match spec with
  | .error error => return .error error
  | .ok spec => do
    let terminal ← executeProcess spec limits rounds
    return .ok terminal

def withPty (size : PtySize) (spec : Result ProcessSpec) : Result ProcessSpec := do
  size.validate
  let spec ← spec
  return { spec with ioMode := .pty size }

namespace Process

def executeShell (request : ShellExecRequest) (limits : MechanicalLimits) (rounds : Nat) :
    Run (Result ExecutionTerminal) :=
  executeSpec (shellSpec request limits) limits rounds

def executeShellPty (request : ShellExecRequest) (size : PtySize) (limits : MechanicalLimits)
    (rounds : Nat) : Run (Result ExecutionTerminal) :=
  executeSpec (withPty size (shellSpec request limits)) limits rounds

end Process

namespace RawAdb

def execute (request : AdbExecRequest) (limits : MechanicalLimits) (rounds : Nat) :
    Run (Result ExecutionTerminal) :=
  executeSpec (adbSpec request limits) limits rounds

def executePty (request : AdbExecRequest) (size : PtySize) (limits : MechanicalLimits)
    (rounds : Nat) : Run (Result ExecutionTerminal) :=
  executeSpec (withPty size (adbSpec request limits)) limits rounds

end RawAdb

def forward : (a : Act) → Unit → Run (a.Res × Unit)
  | .emit event, _ =>
    if event.kind = .accepted then
      return ((), ())
    else do
      perform (.emit event)
      return ((), ())
  | a, _ => do
    let r ← perform a
    return (r, ())

def executeAfterAcceptance (callId : String) (targetId : Option String) (tool : ToolKind)
    (run : Run (Result ExecutionTerminal)) : Run (Result ExecutionTerminal) := do
  perform (.emit {
    callId := callId
    targetId := targetId
    tool := tool
    seq := 0
    elapsedMs := 0
    kind := .accepted
  })
  if ← perform .cancelled then
    let elapsedMs ← perform .elapsed
    let terminal := {
      kind := .cancelled
      exitCode := none
      signal := none
      stdoutBytes := 0
      stderrBytes := 0
      outputTruncated := false
      elapsedMs := elapsedMs
      error := some "effect admission cancelled before process spawn"
    }
    perform (.emit {
      callId := callId
      targetId := targetId
      tool := tool
      seq := 1
      elapsedMs := elapsedMs
      kind := .terminal terminal
    })
    return .ok terminal
  else
    let result ← run.handle forward ()
    return result.1

def executeValidated (valid : Result Unit) (callId : String) (targetId : Option String)
    (tool : ToolKind) (run : Run (Result ExecutionTerminal)) : Run (Result ExecutionTerminal) :=
  match valid with
  | .error error => return .error error
  | .ok () => executeAfterAcceptance callId targetId tool run

def executeShell (request : ShellExecRequest) (limits : MechanicalLimits) (rounds : Nat) :
    Run (Result ExecutionTerminal) :=
  executeValidated (validateShellRequest request limits) request.callId request.targetId .shellExec
    (Process.executeShell request limits rounds)

def executeShellPty (request : ShellExecRequest) (size : PtySize) (limits : MechanicalLimits)
    (rounds : Nat) : Run (Result ExecutionTerminal) :=
  executeValidated (do size.validate; validateShellRequest request limits) request.callId
    request.targetId .shellExec (Process.executeShellPty request size limits rounds)

def executeAdb (request : AdbExecRequest) (limits : MechanicalLimits) (rounds : Nat) :
    Run (Result ExecutionTerminal) :=
  executeValidated (validateAdbRequest request limits) request.callId request.targetId .adbExec
    (RawAdb.execute request limits rounds)

def executeAdbPty (request : AdbExecRequest) (size : PtySize) (limits : MechanicalLimits)
    (rounds : Nat) : Run (Result ExecutionTerminal) :=
  executeValidated (do size.validate; validateAdbRequest request limits) request.callId
    request.targetId .adbExec (RawAdb.executePty request size limits rounds)

end ProcessRuntime
