import Trillionnium.Data.Checked
import Trillionnium.ProcessRuntime.Basic

/-!
The mechanical checks of shell and ADB requests and the process specifications that are built from
them.
-/

namespace ProcessRuntime

open Json (Bytes utf8)

def addBytes (total bytes : Nat) (field : String) : Result Nat :=
  match Checked.add total bytes with
  | some total => .ok total
  | none => .error (invalid s!"{field} byte count overflow")

def validateOsValue (value : Bytes) (field : String) (maxBytes : Nat) (allowEmpty : Bool) :
    Result Unit :=
  reject ((!allowEmpty && value.isEmpty) ∨ value.length > maxBytes ∨ value.contains 0)
    s!"{field} is empty, oversized, or contains NUL"

def validateScalar (value : String) (field : String) (maxBytes : Nat) (allowEmpty : Bool) :
    Result Unit :=
  validateOsValue (utf8 value) field maxBytes allowEmpty

def validateArgv (argv : List String) (limits : MechanicalLimits) (field : String) :
    Result Unit := do
  reject argv.isEmpty s!"{field} must not be empty"
  reject (argv.length > limits.maxArgvItems) s!"{field} has too many elements"
  let total ← argv.foldlM (fun total argument => do
    validateScalar argument field limits.maxArgumentBytes true
    addBytes total (utf8 argument).length field) 0
  reject (total > limits.maxTotalArgumentBytes) s!"{field} exceeds the total byte bound"

def addVariable (total : Nat) (entry : String × Option String) : Result Nat := do
  let (key, value) := entry
  reject ((utf8 key).isEmpty ∨ (utf8 key).contains 61 ∨ (utf8 key).contains 0)
    "environment key is empty or malformed"
  let total ← addBytes total (utf8 key).length "environment"
  match value with
  | none => return total
  | some value =>
    reject ((utf8 value).contains 0) "environment value contains NUL"
    addBytes total (utf8 value).length "environment"

def validateCommonRequest (callId : String) (targetId : Option String) (cwd : Option Bytes)
    (env : EnvironmentDelta) (stdin : Bytes) (limits : MechanicalLimits) : Result Unit := do
  reject (!Text.isId callId limits.maxCallIdBytes) "call_id is empty, oversized, or malformed"
  match targetId with
  | some targetId => validateScalar targetId "target_id" limits.maxTargetIdBytes false
  | none => pure ()
  match cwd with
  | some cwd => validateOsValue cwd "cwd" limits.maxCwdBytes false
  | none => pure ()
  reject (stdin.length > limits.maxStdinBytes) "stdin exceeds the configured byte bound"
  reject (env.size > limits.maxEnvironmentItems) "environment delta has too many entries"
  let environmentBytes ← env.toList.foldlM addVariable 0
  reject (environmentBytes > limits.maxEnvironmentBytes)
    "environment delta exceeds the configured byte bound"

def normalizedTimeout (timeout : Option Nat) (limits : MechanicalLimits) : Result Nat :=
  match timeout with
  | none => .ok limits.defaultTimeout
  | some timeout =>
    if timeout = 0 then
      .ok limits.defaultTimeout
    else if timeout > maxRuntimeRequestTimeout then
      .error (invalid "request timeout exceeds hard bound 86400s")
    else
      .ok timeout

def validateShellRequest (request : ShellExecRequest) (limits : MechanicalLimits) :
    Result Unit := do
  limits.validate
  validateCommonRequest request.callId request.targetId request.cwd request.env request.stdin limits
  match request.invocation with
  | .command command =>
    validateScalar command "shell command" limits.maxTotalArgumentBytes false
    validateOsValue request.shellExecutable "shell executable" limits.maxCwdBytes false
  | .argv argv => validateArgv argv limits "shell argv"
  let _ ← normalizedTimeout request.timeout limits

def shellCommand (request : ShellExecRequest) : Bytes × List Bytes :=
  match request.invocation with
  | .command command => (request.shellExecutable, [utf8 "-c", utf8 command])
  | .argv argv => ((argv.head?.map utf8).getD [], argv.tail.map utf8)

def shellSpec (request : ShellExecRequest) (limits : MechanicalLimits) : Result ProcessSpec := do
  validateShellRequest request limits
  let timeout ← normalizedTimeout request.timeout limits
  return {
    callId := request.callId
    targetId := request.targetId
    tool := .shellExec
    program := (shellCommand request).1
    args := (shellCommand request).2
    cwd := request.cwd
    env := request.env
    stdin := request.stdin
    timeout := timeout
    ioMode := .pipe
  }

def validateAdbRequest (request : AdbExecRequest) (limits : MechanicalLimits) : Result Unit := do
  limits.validate
  validateCommonRequest request.callId request.targetId request.cwd request.env request.stdin limits
  validateArgv request.argv limits "adb argv"
  -- An empty executable stands for a transport that is not configured.
  validateOsValue request.adbExecutable "adb executable" limits.maxCwdBytes true
  let _ ← normalizedTimeout request.timeout limits

def adbSpec (request : AdbExecRequest) (limits : MechanicalLimits) : Result ProcessSpec := do
  validateAdbRequest request limits
  let timeout ← normalizedTimeout request.timeout limits
  return {
    callId := request.callId
    targetId := request.targetId
    tool := .adbExec
    program := request.adbExecutable
    args := request.argv.map utf8
    cwd := request.cwd
    env := request.env
    stdin := request.stdin
    timeout := timeout
    ioMode := .pipe
  }

end ProcessRuntime
