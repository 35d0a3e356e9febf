import Trillionnium.CallRegistry.Basic
import Trillionnium.Data.Sha256
import Trillionnium.ProcessRuntime.Impl.Validate

/-!
The data types of the owner-open tool bridge: bound calls, limits, results and the digest of what was
observed of a call.
-/

namespace ToolBridge

open CallRegistry (CallKey CallRequest CallSnapshot RegistryError TerminalRecord)
open Json (Bytes utf8)
open ProcessRuntime (AdbExecRequest ExecutionEvent ExecutionTerminal MechanicalLimits PtySize
  ShellExecRequest StreamKind ToolKind)

inductive BridgeError where
  | invalidRequest (message : String)
  | claimedDigestMismatch (claimed computed : String)
  | registry (error : RegistryError)
  | registryObservation (error : RegistryError)
  | eventSinkFailed (message : String)
  | eventSinkPanicked
  | runtimeRejected (message : String)
  deriving DecidableEq, Repr

def BridgeError.toString : BridgeError → String
  | .invalidRequest message => s!"invalid owner-open tool bridge request: {message}"
  | .claimedDigestMismatch claimed computed =>
    s!"claimed owner-open request digest {claimed} does not match computed {computed}"
  | .registry error => s!"owner-open call registry failed: {error.toString}"
  | .registryObservation error =>
    s!"owner-open runtime completed with a registry observation failure: {error.toString}"
  | .eventSinkFailed message => s!"owner-open tool event sink failed: {message}"
  | .eventSinkPanicked =>
    "owner-open tool event sink panicked; the process group was cancelled and the registry was closed"
  | .runtimeRejected message =>
    s!"owner-open process runtime rejected a preflighted request: {message}"

abbrev Result (α : Type) := Except BridgeError α

def reject (c : Prop) [Decidable c] (message : String) : Result Unit :=
  if c then .error (.invalidRequest message) else .ok ()

inductive DirectToolRequest where
  | shell (request : ShellExecRequest)
  | adb (request : AdbExecRequest)

def DirectToolRequest.toolKind : DirectToolRequest → ToolKind
  | .shell _ => .shellExec
  | .adb _ => .adbExec

def DirectToolRequest.toolName (request : DirectToolRequest) : String := request.toolKind.asStr

def requireSha256 (value label : String) : Result Unit :=
  reject (!Text.isSha256 value) s!"{label} must be a lowercase SHA-256"

structure BoundToolCall where
  key : CallKey
  bindingFingerprint : String
  targetId : Option String
  canonicalRequest : Bytes
  requestSha256 : String
  request : DirectToolRequest
  pty : Option PtySize

namespace BoundToolCall

def validate (call : BoundToolCall) : Result Unit := do
  requireSha256 call.bindingFingerprint "binding_fingerprint"
  requireSha256 call.requestSha256 "request_sha256"
  reject (call.canonicalRequest.length > 1024 * 1024)
    "canonical request exceeds the bridge byte bound"
  reject (call.targetId.any fun value => (utf8 value).length > 4096 || (utf8 value).contains 0)
    "target_id exceeds its mechanical bound"
  reject (call.pty.any fun size => size.rows == 0 || size.cols == 0)
    "PTY rows and cols must be non-zero"

def registryRequest (call : BoundToolCall) : CallRequest where
  requestSha256 := call.requestSha256
  bindingFingerprint := call.bindingFingerprint
  tool := call.request.toolName
  targetId := call.targetId

end BoundToolCall

structure BridgeLimits where
  runtime : MechanicalLimits
  cancellationPoll : Nat
  deriving DecidableEq, Repr

def describe (result : ProcessRuntime.Result Unit) : Result Unit :=
  result.mapError fun error => .invalidRequest error.toString

namespace BridgeLimits

def default : BridgeLimits where
  runtime := .default
  cancellationPoll := ProcessRuntime.fromMillis 5

def validate (limits : BridgeLimits) : Result Unit := do
  describe limits.runtime.validate
  reject (limits.cancellationPoll = 0 ∨ limits.cancellationPoll > ProcessRuntime.fromSecs 1)
    "cancellation poll must be non-zero and at most one second"

def effectiveRuntime (limits : BridgeLimits) : MechanicalLimits :=
  { limits.runtime with
    pollInterval := min limits.runtime.pollInterval limits.cancellationPoll }

end BridgeLimits

inductive DispatchResult where
  | executed (generation : Nat) (terminal : ExecutionTerminal) (observationSha256 : String)
    (snapshot : CallSnapshot)
  | existing (snapshot : CallSnapshot)
  | inhibited (snapshot : CallSnapshot)
  deriving DecidableEq, Repr

inductive SinkFailure where
  | failed (message : String)
  | panicked
  deriving DecidableEq, Repr

def SinkFailure.error : SinkFailure → BridgeError
  | .failed message => .eventSinkFailed message
  | .panicked => .eventSinkPanicked

def beBytes (width n : Nat) : Bytes :=
  ((List.range width).map fun i => (n / 256 ^ i % 256).toUInt8).reverse

def u32Bytes (n : Nat) : Bytes := beBytes 4 n

def u64Bytes (n : Nat) : Bytes := beBytes 8 n

def i32Bytes (n : Int) : Bytes := beBytes 4 (n % 2 ^ 32).toNat

def i32Min : Int := -2 ^ 31

def field (name : String) (value : Bytes) : Bytes :=
  u64Bytes (utf8 name).length ++ utf8 name ++ u64Bytes value.length ++ value

structure ObservationDigest where
  hashed : Bytes
  nextOrdinal : Nat

namespace ObservationDigest

def new (callId tool : String) (targetId : Option String) (generation : Nat) : ObservationDigest where
  hashed :=
    field "schema" (utf8 "trillionnium.owner-open.local-observation.v1")
      ++ field "call_id" (utf8 callId)
      ++ field "tool" (utf8 tool)
      ++ field "target_id" (utf8 (targetId.getD ""))
      ++ field "spawn_generation" (u64Bytes generation)
  nextOrdinal := 0

def streamName : StreamKind → String
  | .stdout => "stdout"
  | .stderr => "stderr"
  | .pty => "pty"

def eventBytes (event : ExecutionEvent) : Bytes :=
  match event.kind with
  | .accepted => field "kind" (utf8 "accepted")
  | .started pid => field "kind" (utf8 "started") ++ field "pid" (u32Bytes pid)
  | .output stream bytes =>
    field "kind" (utf8 "output")
      ++ field "stream" (utf8 (streamName stream))
      ++ field "bytes" bytes
  | .terminal terminal =>
    field "kind" (utf8 "terminal")
      ++ field "terminal_kind" (utf8 terminal.kind.asStr)
      ++ field "exit_code" (i32Bytes (terminal.exitCode.getD i32Min))
      ++ field "signal" (i32Bytes (terminal.signal.getD i32Min))
      ++ field "stdout_bytes" (u64Bytes terminal.stdoutBytes)
      ++ field "stderr_bytes" (u64Bytes terminal.stderrBytes)
      ++ field "output_truncated" [if terminal.outputTruncated then 1 else 0]
      ++ field "elapsed_ms" (u64Bytes terminal.elapsedMs)
      ++ field "error" (utf8 (terminal.error.getD ""))

def update (digest : ObservationDigest) (event : ExecutionEvent) : Option ObservationDigest :=
  (Checked.add digest.nextOrdinal 1).map fun nextOrdinal => {
    hashed :=
      digest.hashed ++ field "event_ordinal" (u64Bytes digest.nextOrdinal) ++ eventBytes event
    nextOrdinal := nextOrdinal
  }

def finish (digest : ObservationDigest) : String := Sha256.hex digest.hashed

end ObservationDigest

def syntheticTerminal (kind : ProcessRuntime.TerminalKind) (error : String) : ExecutionTerminal where
  kind := kind
  exitCode := none
  signal := none
  stdoutBytes := 0
  stderrBytes := 0
  outputTruncated := false
  elapsedMs := 0
  error := some error

def terminalRecord (terminal : ExecutionTerminal) (observationSha256 : String) :
    Result TerminalRecord := do
  requireSha256 observationSha256 "observation_sha256"
  return {
    terminalKind := terminal.kind.asStr
    exitCode := terminal.exitCode
    signal := terminal.signal
    observationSha256 := observationSha256
    stdoutBytes := terminal.stdoutBytes
    stderrBytes := terminal.stderrBytes
  }

section Preflight

def addBytes (total bytes : Nat) (label : String) : Result Nat :=
  match Checked.add total bytes with
  | some total => .ok total
  | none => .error (.invalidRequest s!"{label} byte count overflow")

def validatePath (path : Bytes) (label : String) (maximum : Nat) (allowEmpty : Bool) : Result Unit :=
  reject ((!allowEmpty && path.isEmpty) ∨ path.length > maximum ∨ path.contains 0)
    s!"{label} is empty, oversized, or contains NUL"

def validateText (value label : String) (maximum : Nat) (allowEmpty : Bool) : Result Unit :=
  validatePath (utf8 value) label maximum allowEmpty

def validateArgv (argv : List String) (label : String) (limits : MechanicalLimits) :
    Result Unit := do
  reject argv.isEmpty s!"{label} must not be empty"
  reject (argv.length > limits.maxArgvItems) s!"{label} has too many elements"
  let total ← argv.foldlM (fun total argument => do
    validateText argument label limits.maxArgumentBytes true
    addBytes total (utf8 argument).length label) 0
  reject (total > limits.maxTotalArgumentBytes) s!"{label} exceeds the total byte bound"

def addVariable (total : Nat) (entry : String × Option String) : Result Nat := do
  let (key, value) := entry
  reject ((utf8 key).isEmpty ∨ (utf8 key).contains 61 ∨ (utf8 key).contains 0)
    "environment key is empty or malformed"
  let total ← addBytes total (utf8 key).length "environment"
  match value with
  | none => return total
  | some value =>
    reject ((utf8 value).contains 0) "environment value contains NUL"
    addBytes total (utf8 value).length "environment"

def validateCommon (callId : String) (targetId : Option String) (cwd : Option Bytes)
    (environment : ProcessRuntime.EnvironmentDelta) (stdin : Bytes) (limits : MechanicalLimits) :
    Result Unit := do
  reject (!Text.isId callId limits.maxCallIdBytes) "call_id is empty, oversized, or malformed"
  match targetId with
  | some targetId => validateText targetId "target_id" limits.maxTargetIdBytes false
  | none => pure ()
  match cwd with
  | some cwd => validatePath cwd "cwd" limits.maxCwdBytes false
  | none => pure ()
  reject (stdin.length > limits.maxStdinBytes) "stdin exceeds the configured byte bound"
  reject (environment.size > limits.maxEnvironmentItems) "environment delta has too many entries"
  let total ← environment.toList.foldlM addVariable 0
  reject (total > limits.maxEnvironmentBytes) "environment delta exceeds the configured byte bound"

def validateRuntimeRequest (request : DirectToolRequest) (pty : Option PtySize)
    (limits : MechanicalLimits) : Result Unit := do
  describe limits.validate
  match request with
  | .shell request =>
    validateCommon request.callId request.targetId request.cwd request.env request.stdin limits
    match request.invocation with
    | .command command =>
      validateText command "shell command" limits.maxTotalArgumentBytes false
      validatePath request.shellExecutable "shell executable" limits.maxCwdBytes false
    | .argv argv => validateArgv argv "shell argv" limits
  | .adb request =>
    validateCommon request.callId request.targetId request.cwd request.env request.stdin limits
    validateArgv request.argv "adb argv" limits
    validatePath request.adbExecutable "adb executable" limits.maxCwdBytes true
  reject (pty.any fun size => size.rows == 0 || size.cols == 0)
    "PTY rows and cols must be non-zero"

end Preflight

end ToolBridge
