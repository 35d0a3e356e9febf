import Trillionnium.Data.Base64
import Trillionnium.Host.Impl.Persistence

/-!
How the core of the host builds frames, records them in the journal and delivers them to the client.
Delivery stops for good at the first frame that cannot be written.
-/

namespace Host

open CallRegistry (CallSnapshot EffectiveState TerminalRecord)
open Json
open ProcessRuntime (ExecutionEvent ExecutionTerminal StreamKind)
open Protocol
open TurnLoop (ProviderEvent ProviderTerminal TurnEvent)

section Persist

def decorateLogStatus (payload : Document) (persistence : Persistence) : Document :=
  let payload := payload.insert "event_log_status" (.ofString persistence.status)
  let payload :=
    if (payload.get? "runtime_ready").isSome then
      payload.insert "runtime_ready" (.ofBool persistence.effectAdmissionError.isNone)
    else
      payload
  payload.insert "event_log_error" (.ofOption .ofString persistence.error)

def markUnrecorded (payload : Document) : Document :=
  let marked := payload.insert "status" (.ofString "unknown_after_journal_failure")
  let marked :=
    match payload.get? "status" with
    | some observed => marked.insert "observed_status" observed
    | none => marked
  marked.insert "automatic_redispatch" (.ofBool false)

def unrecordedFrame (frame : RunTurnFrame) (persistence : Persistence) : RunTurnFrame :=
  let payload := decorateLogStatus frame.payload persistence
  if persistence.effectAdmissionError.isSome ∧ frame.kind = frameTurnEnd then
    { frame with payload := markUnrecorded payload }
  else
    { frame with payload := payload }

def decoratedFrame (frame : RunTurnFrame) (persistence : Persistence) : RunTurnFrame :=
  { frame with payload := decorateLogStatus frame.payload persistence }

def persistForDelivery (scope : EventStore.TurnScope) (requestDigest : String) (frame : RunTurnFrame)
    (persistence : Persistence) : Run (RunTurnFrame × Persistence) := do
  let frame := decoratedFrame frame persistence
  let (recorded, persistence) ← persistence.appendFrame scope requestDigest frame
  if recorded then
    return (frame, persistence)
  else
    return (unrecordedFrame frame persistence, persistence)

def admitted (frame : RunTurnFrame) (persistence : Persistence) : Except String RunTurnFrame :=
  match persistence.effectAdmissionError with
  | some error => .error error
  | none => .ok frame

def persistBeforeEffect (scope : EventStore.TurnScope) (requestDigest : String) (frame : RunTurnFrame)
    (persistence : Persistence) : Run (Except String RunTurnFrame × Persistence) :=
  match persistence.effectAdmissionError with
  | some error => return (.error error, persistence)
  | none => do
    let (frame, persistence) ← persistForDelivery scope requestDigest frame persistence
    return (admitted frame persistence, persistence)

end Persist

section Deliver

def IsDeliverable (encoded : Bytes) : Prop :=
  encoded ≠ [] ∧ encoded.length ≤ limits.maxFrameBytes

instance (encoded : Bytes) : Decidable (IsDeliverable encoded) :=
  inferInstanceAs (Decidable (_ ∧ _))

def writeFrame (frame : RunTurnFrame) : Run (Except String Unit) := do
  match ← perform (.encode frame) with
  | .error error => return .error s!"failed to encode response frame: {error}"
  | .ok encoded =>
    if IsDeliverable encoded then do
      let result ← perform (.write frame)
      return result.mapError fun error => s!"failed to write response frame: {error}"
    else
      return .error "response frame is empty or exceeds the configured bound"

def CoreState.detach (state : CoreState) (error : String) : CoreState :=
  { state with deliveryAttached := false, deliveryError := some error }

def deliverFrame (frame : RunTurnFrame) (state : CoreState) : Run CoreState :=
  if state.deliveryAttached then do
    match ← writeFrame frame with
    | .ok () => return state
    | .error error => return state.detach error
  else
    return state

def deliverReplay : List RunTurnFrame → CoreState → Run CoreState
  | [], state => return state
  | frame :: frames, state => do
    let state ← deliverFrame frame state
    deliverReplay frames state

def newFrame (kind : String) (payload : Document) (context : Option TurnContext)
    (correlation : EventCorrelation) (state : CoreState) : Run (RunTurnFrame × CoreState) :=
  match context with
  | some context =>
    let (frame, output) := state.output.turnFrame kind payload context correlation
    return (frame, { state with output := output })
  | none => do
    let seq ← perform .controlSeq
    return (state.output.controlFrame kind payload seq correlation, state)

def deliverHostError (context : Option TurnContext) (code message : String) (state : CoreState) :
    Run CoreState := do
  let payload := .object [
    ("code", .ofString code),
    ("message", .ofString message),
    ("automatic_redispatch", .ofBool false)]
  let (frame, state) ← newFrame frameHostError payload context .default state
  deliverFrame frame state

def deliverUnscopedHostErrorWithContext (context : TurnContext) (code message : String)
    (state : CoreState) : Run CoreState := do
  let payload := .object [
    ("code", .ofString code),
    ("message", .ofString message),
    ("session_id", .ofString context.sessionId),
    ("profile_id", .ofString context.profileId),
    ("task_id", .ofString context.taskId),
    ("turn_id", .ofString context.turnId),
    ("turn_stream_id", .ofString context.turnStreamId),
    ("turn_request_sha256", .ofString context.requestSha256),
    ("automatic_redispatch", .ofBool false)]
  let (frame, state) ← newFrame frameHostError payload none .default state
  deliverFrame frame state

def persistAndDeliver (active : ActiveTurn) (frame : RunTurnFrame) (state : CoreState) :
    Run CoreState := do
  let (frame, persistence) ←
    persistForDelivery active.durableScope active.requestDigest frame state.persistence
  deliverFrame frame { state with persistence := persistence }

end Deliver

section Events

variable (ext : Externals)

def debugOption {α : Type} (debug : α → String) : Option α → String
  | some x => s!"Some({debug x})"
  | none => "None"

def debugTerminalRecord (terminal : TerminalRecord) : String :=
  s!"TerminalRecord \x7b terminal_kind: {ext.debugStr terminal.terminalKind}, "
    ++ s!"exit_code: {debugOption toString terminal.exitCode}, "
    ++ s!"signal: {debugOption toString terminal.signal}, "
    ++ s!"observation_sha256: {ext.debugStr terminal.observationSha256}, "
    ++ s!"stdout_bytes: {terminal.stdoutBytes}, stderr_bytes: {terminal.stderrBytes} \x7d"

def debugState : EffectiveState → String
  | .accepted => "Accepted"
  | .cancelledBeforeSpawn => "CancelledBeforeSpawn"
  | .started generation pid =>
    s!"Started \x7b generation: {generation}, pid: {debugOption toString pid} \x7d"
  | .provenNotStartedAfterDisconnect => "ProvenNotStartedAfterDisconnect"
  | .unknownAfterDisconnect generation pid =>
    s!"UnknownAfterDisconnect \x7b generation: {generation}, pid: {debugOption toString pid} \x7d"
  | .terminal generation terminal =>
    s!"Terminal \x7b generation: {generation}, terminal: {debugTerminalRecord ext terminal} \x7d"

def providerFrame (seq : Nat) : ProviderEvent → String × Document
  | .status text detail => (frameProviderStatus, .object [
      ("status", .ofString text),
      ("detail", .ofOption .ofString detail),
      ("turn_event_seq", .ofU64 seq)])
  | .modelDelta text => (frameModelDelta, .object [
      ("text", .ofString text),
      ("turn_event_seq", .ofU64 seq)])
  | .modelMessage text => (frameModelMessage, .object [
      ("text", .ofString text),
      ("turn_event_seq", .ofU64 seq)])
  | .opaqueEvent kind payload => (frameProviderOpaque, .object [
      ("provider_kind", .ofString kind),
      ("raw", .ofString payload),
      ("turn_event_seq", .ofU64 seq)])

def terminalPayload (terminal : ExecutionTerminal) (runtimeSeq turnEventSeq : Nat) : Document :=
  .object [
    ("status", .ofString "terminal"),
    ("terminal_kind", .ofString terminal.kind.asStr),
    ("exit_code", .ofOption .ofInt terminal.exitCode),
    ("signal", .ofOption .ofInt terminal.signal),
    ("stdout_bytes", .ofU64 terminal.stdoutBytes),
    ("stderr_bytes", .ofU64 terminal.stderrBytes),
    ("output_truncated", .ofBool terminal.outputTruncated),
    ("elapsed_ms", .ofU64 terminal.elapsedMs),
    ("error", .ofOption .ofString terminal.error),
    ("runtime_seq", .ofU64 runtimeSeq),
    ("turn_event_seq", .ofU64 turnEventSeq)]

def streamFrame : StreamKind → String
  | .stdout => frameToolStdout
  | .stderr => frameToolStderr
  | .pty => frameToolPty

def runtimeFrame (turnEventSeq : Nat) (runtime : ExecutionEvent) : String × Document :=
  match runtime.kind with
  | .accepted => (frameToolAccepted, .object [
      ("status", .ofString "accepted"),
      ("runtime_seq", .ofU64 runtime.seq),
      ("turn_event_seq", .ofU64 turnEventSeq),
      ("elapsed_ms", .ofU64 runtime.elapsedMs)])
  | .started pid => (frameToolStarted, .object [
      ("status", .ofString "started"),
      ("pid", .ofU64 pid),
      ("runtime_seq", .ofU64 runtime.seq),
      ("turn_event_seq", .ofU64 turnEventSeq),
      ("elapsed_ms", .ofU64 runtime.elapsedMs)])
  | .output stream bytes => (streamFrame stream, .object [
      ("encoding", .ofString "base64"),
      ("data", .ofString (Base64.encode bytes)),
      ("byte_count", .ofU64 bytes.length),
      ("runtime_seq", .ofU64 runtime.seq),
      ("turn_event_seq", .ofU64 turnEventSeq),
      ("elapsed_ms", .ofU64 runtime.elapsedMs)])
  | .terminal terminal => (frameToolResult, terminalPayload terminal runtime.seq turnEventSeq)

def snapshotPayload (turnEventSeq : Nat) (status : String) (snapshot : CallSnapshot) : Document :=
  .object [
    ("status", .ofString status),
    ("state", .ofString (debugState ext snapshot.state)),
    ("request_sha256", .ofString snapshot.request.requestSha256),
    ("binding_fingerprint", .ofString snapshot.request.bindingFingerprint),
    ("cancellation_requested", .ofBool snapshot.cancellationRequested),
    ("connection_lost", .ofBool snapshot.connectionLost),
    ("turn_event_seq", .ofU64 turnEventSeq)]

def snapshotCorrelation (snapshot : CallSnapshot) : EventCorrelation where
  callId := some snapshot.key.callId
  tool := some snapshot.request.tool
  targetId := snapshot.request.targetId

def runtimeCorrelation (runtime : ExecutionEvent) : EventCorrelation where
  callId := some runtime.callId
  tool := some runtime.tool.asStr
  targetId := runtime.targetId

def eventFrame (event : TurnEvent) : Option (String × Document × EventCorrelation) :=
  match event.kind with
  | .turnAccepted => none
  | .turnTerminal _ => none
  | .provider provider =>
    let (kind, payload) := providerFrame event.seq provider
    some (kind, payload, .default)
  | .toolRuntime runtime =>
    let (kind, payload) := runtimeFrame event.seq runtime
    some (kind, payload, runtimeCorrelation runtime)
  | .toolExisting snapshot =>
    some (frameToolResult, snapshotPayload ext event.seq "existing" snapshot,
      snapshotCorrelation snapshot)
  | .toolInhibited snapshot =>
    some (frameToolResult, snapshotPayload ext event.seq "inhibited" snapshot,
      snapshotCorrelation snapshot)

def mapTurnEvent (output : OutputState) (context : TurnContext) (event : TurnEvent) :
    Option (RunTurnFrame × OutputState) :=
  (eventFrame ext event).map fun (kind, payload, correlation) =>
    output.turnFrame kind payload context correlation

end Events

end Host
