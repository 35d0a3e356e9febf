import Trillionnium.Host.Impl.Inspect

/-!
The core of the host: one loop that takes messages from its queue, serves the client and keeps the turn
in progress.
-/

namespace Host

open CallRegistry (CallKey CallSnapshot)
open Concurrent
open Json
open Protocol
open TurnLoop (ProviderTerminal TurnEvent TurnRequest)

variable (ext : Externals)

section Control

def TurnCancelRequest.Matches (request : TurnCancelRequest) (context : TurnContext) : Prop :=
  request.sessionId = context.sessionId
    ∧ request.turnId = context.turnId
    ∧ ¬ Disagree request.profileId (some context.profileId)
    ∧ ¬ Disagree request.taskId (some context.taskId)
    ∧ ¬ Disagree request.turnStreamId (some context.turnStreamId)

instance (request : TurnCancelRequest) (context : TurnContext) :
    Decidable (TurnCancelRequest.Matches request context) :=
  inferInstanceAs (Decidable (_ ∧ _ ∧ _ ∧ _ ∧ _))

def acceptTurnCancel (active : ActiveTurn) (first : Bool) (state : CoreState) : Run CoreState := do
  let payload := .object [
    ("status", .ofString (if first then "requested" else "already_requested")),
    ("automatic_redispatch", .ofBool false)]
  let (ack, state) ←
    newFrame frameTurnCancelAccepted payload (some active.context) .default state
  persistAndDeliver active ack state

def handleTurnCancel (frame : RunTurnFrame) (active : ActiveTurn) (state : CoreState) :
    Run CoreState :=
  match frame.turnCancel limits with
  | .error error =>
    deliverHostError (some active.context) "invalid_frame" error.toString state
  | .ok request =>
    if TurnCancelRequest.Matches request active.context then do
      let first ← perform (.cancelTurn active.worker)
      acceptTurnCancel active first state
    else
      deliverHostError (some active.context) "control_correlation_mismatch"
        "turn.cancel does not match the active turn" state

def controlFields (frame : RunTurnFrame) (context : TurnContext) :
    List (String × Option String × String) := [
  ("session_id", frame.sessionId, context.sessionId),
  ("profile_id", frame.profileId, context.profileId),
  ("task_id", frame.taskId, context.taskId),
  ("turn_id", frame.turnId, context.turnId),
  ("turn_stream_id", frame.turnStreamId.or frame.streamId, context.turnStreamId)]

def validateControlPayload (label expected : String) : Option Document → Except String Unit
  | none => .ok ()
  | some d =>
    match d.value with
    | .string value =>
      refuse (value ≠ expected) s!"tool.cancel payload {label} does not match the active turn"
    | _ => .error s!"tool.cancel payload {label} must be a string"

def validateControlContext (frame : RunTurnFrame) (context : TurnContext) : Except String Unit :=
  (controlFields frame context).forM fun (label, envelope, expected) => do
    refuse (Disagree envelope (some expected))
      s!"tool.cancel {label} does not match the active turn"
    validateControlPayload label expected (frame.payload.get? label)

def toolCancelCallId (frame : RunTurnFrame) : Except String String := do
  let payloadCallId := (frame.payload.get? "call_id").bind fun d => d.asString.toOption
  refuse (Disagree frame.callId payloadCallId) "tool.cancel envelope and payload call_id conflict"
  match frame.callId.or payloadCallId with
  | none => .error "tool.cancel requires call_id"
  | some callId => do
    refuse (!isValidId callId) "tool.cancel call_id is malformed"
    return callId

def acceptToolCancel (active : ActiveTurn) (callId : String) (snapshot : CallSnapshot)
    (state : CoreState) : Run CoreState := do
  let payload := .object [
    ("status", .ofString "requested"),
    ("state", .ofString (debugState ext snapshot.state)),
    ("automatic_redispatch", .ofBool false)]
  let (ack, state) ← newFrame frameToolCancelAccepted payload (some active.context)
    ⟨some callId, some snapshot.request.tool, snapshot.request.targetId⟩ state
  persistAndDeliver active ack state

def handleToolCancel (frame : RunTurnFrame) (active : ActiveTurn) (state : CoreState) :
    Run CoreState :=
  match validateControlContext frame active.context with
  | .error error =>
    deliverHostError (some active.context) "control_correlation_mismatch" error state
  | .ok () =>
    match toolCancelCallId frame with
    | .error error => deliverHostError (some active.context) "invalid_frame" error state
    | .ok callId => do
      match ← perform (.requestCancel ⟨active.context.registryScope, callId⟩) with
      | .ok snapshot => acceptToolCancel ext active callId snapshot state
      | .error .notFound =>
        deliverHostError (some active.context) "unknown_call"
          "tool.cancel does not identify a registered active-turn call" state
      | .error error =>
        deliverHostError (some active.context) "control_state_error" error.toString state

def handleActiveFrame (frame : RunTurnFrame) (active : ActiveTurn) (state : CoreState) :
    Run CoreState :=
  if frame.kind = frameTurnCancel then
    handleTurnCancel frame active state
  else if frame.kind = frameToolCancel then
    handleToolCancel ext frame active state
  else if frame.kind = frameTurnInspect then
    handleTurnInspect ext frame state
  else if frame.kind = frameCallInspect then
    handleCallInspect ext frame state
  else
    deliverHostError (some active.context) "connection_state"
      s!"frame {frame.kind} is not valid while a turn is active" state

end Control

section Turns

def endPayload (result : Except String ProviderTerminal) (state : CoreState) : Document :=
  let status := match result with
    | .ok terminal => terminal.status.asStr
    | .error _ => "host_failed"
  let summary := match result with
    | .ok terminal => terminal.summary
    | .error _ => none
  let error := match result with
    | .ok terminal => terminal.error
    | .error error => some error
  .object [
    ("status", .ofString status),
    ("summary", .ofOption .ofString summary),
    ("error", .ofOption .ofString error),
    ("runtime_ready", .ofBool state.persistence.effectAdmissionError.isNone),
    ("event_log_status", .ofString state.persistence.status),
    ("event_log_error", .ofOption .ofString state.persistence.error),
    ("streaming_events", .ofBool true),
    ("active_turn_controls", .ofBool true),
    ("client_delivery_status_before_terminal_attempt",
      .ofString (if state.deliveryAttached then "attached" else "detached")),
    ("client_delivery_error", .ofOption .ofString state.deliveryError)]

def finishActiveTurn (active : ActiveTurn) (result : Except String ProviderTerminal)
    (state : CoreState) : Run CoreState := do
  let (terminal, state) ←
    newFrame frameTurnEnd (endPayload result state) (some active.context) .default state
  persistAndDeliver active terminal state

def reconciliationPayload (persistence : Persistence) : Document :=
  .object [
    ("status", .ofString "unknown_after_disconnect"),
    ("summary", .null),
    ("error", .ofString "a prior durable turn has no terminal observation; automatic redispatch is denied"),
    ("runtime_ready", .ofBool persistence.effectAdmissionError.isNone),
    ("reconciliation", .ofBool true),
    ("automatic_redispatch", .ofBool false),
    ("event_log_status", .ofString persistence.status),
    ("event_log_error", .ofOption .ofString persistence.error)]

def reconcileTurn (context : TurnContext) (frames : List RunTurnFrame) (state : CoreState) :
    Run CoreState := do
  let state := { state with output := state.output.observeReplay frames }
  let (terminal, state) ←
    newFrame frameTurnEnd (reconciliationPayload state.persistence) (some context) .default state
  let (terminal, persistence) ← persistForDelivery context.durableScope context.requestSha256
    terminal state.persistence
  deliverReplay (frames ++ [terminal]) { state with persistence := persistence }

def acceptedPayload (requestDigest : String) (persistence : Persistence) : Document :=
  .object [
    ("status", .ofString "accepted"),
    ("provider_status", .ofString "starting"),
    ("event_log_status", .ofString persistence.status),
    ("event_log_error", .ofOption .ofString persistence.error),
    ("streaming_events", .ofBool true),
    ("active_turn_controls", .ofBool true),
    ("turn_request_sha256", .ofString requestDigest)]

def loopRequest (context : TurnContext) (userInput : String) : TurnRequest where
  sessionId := context.sessionId
  profileId := context.profileId
  taskId := context.taskId
  turnId := context.turnId
  turnStreamId := context.turnStreamId
  userInput := userInput

abbrev Flow := CoreState ⊕ Except String Unit

def launchTurn (context : TurnContext) (userInput : String) (state : CoreState) : Run Flow := do
  match ← perform (.spawnWorker (loopRequest context userInput)) with
  | .error error => return .inr (.error s!"failed to spawn active turn worker: {error}")
  | .ok worker => return .inl { state with active := some {
      context := context
      requestDigest := context.requestSha256
      durableScope := context.durableScope
      worker := worker } }

def acceptTurn (context : TurnContext) (userInput : String) (state : CoreState) : Run Flow := do
  let (accepted, state) ← newFrame frameTurnAccepted
    (acceptedPayload context.requestSha256 state.persistence) (some context) .default state
  let (accepted, persistence) ← persistBeforeEffect context.durableScope context.requestSha256
    accepted state.persistence
  let state := { state with persistence := persistence }
  match accepted with
  | .error error => .inl <$>
      deliverUnscopedHostErrorWithContext context "turn_journal_unavailable" error state
  | .ok accepted => do
    let state ← deliverFrame accepted state
    launchTurn context userInput state

def resumeTurn (context : TurnContext) (userInput : String) (state : CoreState) :
    StoredTurn → Run Flow
  | .complete frames =>
    .inl <$> deliverReplay frames { state with output := state.output.observeReplay frames }
  | .incomplete frames => .inl <$> reconcileTurn context frames state
  | .conflict error =>
    .inl <$> deliverUnscopedHostErrorWithContext context "turn_replay_conflict" error state
  | .unavailable error =>
    .inl <$> deliverUnscopedHostErrorWithContext context "turn_replay_conflict" error state
  | .empty => acceptTurn context userInput state

def startTurn (context : TurnContext) (userInput : String) (state : CoreState) : Run Flow :=
  let state := { state with output := state.output.restart }
  match state.persistence.effectAdmissionError with
  | some error =>
    .inl <$> deliverUnscopedHostErrorWithContext context "turn_journal_unavailable" error state
  | none => do
    let stored ← state.persistence.load context.durableScope context.requestSha256
    resumeTurn context userInput state stored

end Turns

section Loop

def helloPayload (connectionId : String) (persistence : Persistence) : Document :=
  .object [
    ("protocol", .ofString protocol),
    ("protocol_version", .ofU64 protocolVersion),
    ("connection_id", .ofString connectionId),
    ("host_implementation", .ofString hostImplementationV4),
    ("provider_status", .ofString "configured_external_jsonl"),
    ("runtime_ready", .ofBool persistence.effectAdmissionError.isNone),
    ("same_turn_tool_callback", .ofBool true),
    ("streaming_turn_events", .ofBool true),
    ("streaming_event_persistence", .ofBool persistence.isDurable),
    ("client_disconnect_cancels_turn", .ofBool false),
    ("durable_event_store", .ofBool persistence.isDurable),
    ("event_log_status", .ofString persistence.status),
    ("event_log_error", .ofOption .ofString persistence.error),
    ("completed_turn_replay", .ofBool persistence.isDurable),
    ("incomplete_turn_redispatch", .ofBool false),
    ("turn_cancel", .ofString "serviceable_while_active"),
    ("tool_cancel", .ofString "serviceable_while_active_for_registered_calls"),
    ("turn_inspect", .ofString "read_only_inclusive_cursor"),
    ("call_inspect", .ofString "live_registry_or_durable_frames"),
    ("inspect_persists_response", .ofBool false),
    ("bounded_control_queue_depth", .ofU64 hostQueueDepth),
    ("max_wire_inspect_limit", .ofU64 maxWireInspectLimit),
    ("asynchronous_control", .ofBool true),
    ("one_active_turn_per_connection", .ofBool true)]

def writeHello (state : CoreState) : Run CoreState := do
  let (frame, state) ← newFrame frameHelloAck
    (helloPayload state.output.connectionId state.persistence) none .default state
  deliverFrame frame state

def handleTurnStart (frame : RunTurnFrame) (state : CoreState) : Run Flow :=
  match frame.turnRequest limits with
  | .error error => .inl <$> deliverHostError none "invalid_frame" error.toString state
  | .ok request => startTurn (turnContext ext request) request.userInput state

def handleIdleFrame (frame : RunTurnFrame) (state : CoreState) : Run Flow :=
  if frame.kind = frameHello then
    .inl <$> writeHello state
  else if frame.kind = frameTurnStart then
    handleTurnStart ext frame state
  else if frame.kind = frameTurnInspect then
    .inl <$> handleTurnInspect ext frame state
  else if frame.kind = frameCallInspect then
    .inl <$> handleCallInspect ext frame state
  else if frame.kind = frameTurnCancel ∨ frame.kind = frameToolCancel then
    .inl <$> deliverHostError none "no_active_turn" "the control frame has no active turn" state
  else
    .inl <$> deliverHostError none "unsupported_frame"
      s!"unsupported client frame kind {frame.kind}" state

def handleInbound (decoded : Protocol.Result RunTurnFrame) (state : CoreState) : Run Flow :=
  match decoded with
  | .error error => .inl <$> deliverHostError none "invalid_frame" error.toString state
  | .ok frame =>
    match state.active with
    | some active => .inl <$> handleActiveFrame ext frame active state
    | none => handleIdleFrame ext frame state

def recordTurnEvent (active : ActiveTurn) (frame : RunTurnFrame) (receipt : Nat) (state : CoreState) :
    Run CoreState := do
  let (recorded, persistence) ←
    persistBeforeEffect active.durableScope active.requestDigest frame state.persistence
  let state := { state with persistence := persistence }
  match recorded with
  | .ok frame => do
    perform (.sendReceipt receipt (.ok ()))
    deliverFrame frame state
  | .error error => do
    let _ ← perform (.cancelTurn active.worker)
    perform (.sendReceipt receipt (.error error))
    return state

def acknowledgeTurnEvent (active : ActiveTurn) (receipt : Nat) (state : CoreState) :
    Run CoreState := do
  match state.persistence.effectAdmissionError with
  | none =>
    perform (.sendReceipt receipt (.ok ()))
    return state
  | some error =>
    let _ ← perform (.cancelTurn active.worker)
    perform (.sendReceipt receipt (.error error))
    return state

def handleTurnEvent (event : TurnEvent) (receipt : Nat) (state : CoreState) : Run CoreState :=
  match state.active with
  | none => do
    perform (.sendReceipt receipt (.error "turn is no longer active"))
    return state
  | some active =>
    match mapTurnEvent ext state.output active.context event with
    | some (frame, output) => recordTurnEvent active frame receipt { state with output := output }
    | none => acknowledgeTurnEvent active receipt state

def handleTurnComplete (result : Except String ProviderTerminal) (state : CoreState) :
    Run CoreState :=
  match state.active with
  | none => return state
  | some active => do
    match ← perform (.joinWorker active.worker) with
    | .ok () => finishActiveTurn active result { state with active := none }
    | .error () =>
      finishActiveTurn active (.error "active turn worker panicked") { state with active := none }

def joinError : Except Unit Unit → String
  | .ok () => "active turn worker exited without a terminal message"
  | .error () => "active turn worker panicked"

def handleTimeout (state : CoreState) : Run CoreState :=
  match state.active with
  | none => return state
  | some active => do
    if ← perform (.workerFinished active.worker) then
      let joined ← perform (.joinWorker active.worker)
      finishActiveTurn active (.error (joinError joined)) { state with active := none }
    else
      return state

def handleMessage (message : HostMessage) (state : CoreState) : Run Flow :=
  match message with
  | .inbound decoded => handleInbound ext decoded state
  | .inputEof => return .inl { state with inputOpen := false }
  | .inputError error => return .inl { state with
      inputOpen := false
      deliveryError := some (state.deliveryError.getD error) }
  | .turnEvent event receipt => .inl <$> handleTurnEvent ext event receipt state
  | .turnComplete result => .inl <$> handleTurnComplete result state

def handleDisconnected (state : CoreState) : Flow :=
  if state.active.isNone then .inr (.ok ()) else .inl { state with inputOpen := false }

def handleReceived (received : Received) (state : CoreState) : Run Flow :=
  match received with
  | .message message => handleMessage ext message state
  | .timeout => .inl <$> handleTimeout state
  | .disconnected => return handleDisconnected state

def CoreState.isDone (state : CoreState) : Bool :=
  state.active.isNone && (!state.inputOpen || !state.deliveryAttached)

def round (state : CoreState) : Run Flow :=
  if state.isDone then
    return .inr (.ok ())
  else do
    let received ← perform .receive
    handleReceived ext received state

def processMessagesWithControlSeq (rounds : Nat) (state : CoreState) : Run (Except String Unit) :=
  .iterate (round ext) rounds state

end Loop

end Host
