import Trillionnium.Transport.Impl.Control
import Trillionnium.Transport.Impl.Process

/-!
The loop of the transport. It handles the messages of the client, of the core and of the system one
by one, in any order that they come in.
-/

namespace Transport

open Host (Externals TurnContext U64 frameHostError)
open Json Protocol StreamWindow

structure ValidFrame where
  frame : RunTurnFrame
  valid : frame.validateMechanical .default = .ok ()

inductive Message where
  | clientFrame (frame : ValidFrame) (forwardError : Option String)
  | clientGarbage (error : ProtocolError) (binding : Option BrokerRequestBinding)
  | clientEof
  | clientError (error : String)
  | coreFrame (frame : ValidFrame)
  | coreGarbage (error : ProtocolError)
  | coreEof
  | coreError (error : String)
  | coreExited (result : Except String ExitStatus)
  | timeout (expired : Bool)
  | disconnected

namespace Loop

def start (options : Options) (connectionId : String) (journal : TransportJournal)
    (outcomes : Nat → Option String) : Loop where
  delivery := .new outcomes
  output := .new connectionId
  flow := .new options
  journal := journal
  active := none
  handshake := .default
  durableReady := false
  clientOpen := true
  coreReaderOpen := true
  coreWaitOpen := true
  coreStatus := none
  coreExitDeadline := false
  terminalError := none
  coreInputOpen := true
  log := []

end Loop

def closeCoreInput : Action Unit := modify fun s => { s with coreInputOpen := false }

def noteTerminalError (error : String) : Action Unit :=
  modify fun s => { s with terminalError := s.terminalError.or (some error) }

def modifyHandshake (f : TransportHandshake → TransportHandshake) : Action Unit :=
  modify fun s => { s with handshake := f s.handshake }

section Client

variable (ext : Externals) (options : Options)

def handleFlowControl (frame : RunTurnFrame) (context : TurnContext)
    (binding : Option BrokerRequestBinding) : Action Unit := do
  match parseFlowControl ext frame context (← get).flow.maxCreditBytes with
  | .error error =>
    writeLocalErrorOrDefer ext.float (some context) "invalid_flow_control" error binding
  | .ok parsed =>
    let (result, flow) := (← get).flow.applyControl parsed
    setFlow flow
    match result with
    | .error error =>
      writeLocalErrorOrDefer ext.float (some context) "flow_control_conflict" error binding
    | .ok (disposition, snapshot) =>
      let kind := flowAckKind parsed.command
      let payload := flowAckPayload parsed disposition snapshot flow
      if (← get).handshake.holdsLocalDelivery then
        deferLocal ext.float (.localFrame ⟨kind, payload, some context, binding, true⟩) binding
      else
        let ack ← localFrame kind payload (some context)
        sendWithBinding ext.float ack binding .plain
        drainFlow ext.float

def forwardToCore (forwardError : Option String) (binding : Option BrokerRequestBinding) :
    Action Unit :=
  match forwardError with
  | none => modifyRouter (·.markForwarded binding)
  | some error => do
    failPendingHandshake ext.float ("core_forward_failed", error) ("core_forward_failed", error)
    closeCoreInput
    noteTerminalError error

def failRegistration (error : String) (binding : Option BrokerRequestBinding) : Action Unit := do
  failPendingHandshake ext.float ("resource_exhausted", error) ("resource_exhausted", error)
  discardBrokerBinding binding

def handleHello (frame : RunTurnFrame) (binding : Option BrokerRequestBinding)
    (forwardError : Option String) : Action Unit := do
  match (← get).delivery.router.checkRegistrationCapacity frame binding with
  | .error error =>
    modifyHandshake TransportHandshake.consumePreface
    writeLocalErrorOrDefer ext.float none "resource_exhausted" error binding
  | .ok () =>
    match (← get).handshake.beginHello with
    | .error error =>
      writeLocalErrorOrDefer ext.float none "connection_state" error binding
    | .ok handshake =>
      setHandshake { handshake with helloBinding := binding }
      match (← get).delivery.router.register ext frame binding with
      | .error error =>
        failRegistration ext error binding
        closeCoreInput
      | .ok router =>
        modifyRouter fun _ => router
        forwardToCore ext forwardError binding

def admitTurn (frame : RunTurnFrame) (binding : Option BrokerRequestBinding) : Action Bool := do
  if (← get).active.isSome then
    writeLocalErrorOrDefer ext.float none "connection_state"
      "a second turn.start is not valid while a turn is active" binding
    return false
  else
    match frame.turnRequest .default with
    | .error error =>
      writeLocalErrorOrDefer ext.float none "invalid_frame" error.toString binding
      return false
    | .ok request =>
      let context := Host.turnContext ext request
      match (← get).delivery.router.checkRegistrationCapacity frame binding with
      | .error error =>
        writeLocalErrorOrDefer ext.float (some context) "resource_exhausted" error binding
        return false
      | .ok () =>
        match (← get).handshake.beginTurn with
        | .error error =>
          writeLocalErrorOrDefer ext.float (some context) "connection_state" error binding
          return false
        | .ok handshake =>
          setHandshake { handshake with turnBinding := binding }
          setFlow (← get).flow.beginTurn
          match (← get).delivery.router.register ext frame binding with
          | .error error =>
            failRegistration ext error binding
            setFlow (← get).flow.finishTurn
            closeCoreInput
            return false
          | .ok router =>
            modifyRouter fun _ => router
            setActive (some context)
            return true

def registerRequest (frame : RunTurnFrame) (binding : Option BrokerRequestBinding) :
    Action Bool := do
  match (← get).delivery.router.register ext frame binding with
  | .error error =>
    discardBrokerBinding binding
    writeLocalErrorOrDefer ext.float (← get).active "resource_exhausted" error binding
    return false
  | .ok router =>
    modifyRouter fun _ => router
    return true

def handleRequest (frame : RunTurnFrame) (binding : Option BrokerRequestBinding)
    (forwardError : Option String) : Action Unit := do
  modifyHandshake TransportHandshake.consumePreface
  if isFlowControlKind frame.kind then
    match (← get).active with
    | none =>
      writeLocalErrorOrDefer ext.float none "no_active_turn" "stream control has no active turn"
        binding
    | some context =>
      if options.eventStore.isNone || !(← get).durableReady then
        writeLocalErrorOrDefer ext.float (some context) "flow_control_requires_durable_store"
          "bounded pause/window delivery requires an available durable event store" binding
      else
        handleFlowControl ext frame context binding
  else
    let forward ←
      if frame.kind = frameTurnStart then admitTurn ext frame binding
      else registerRequest ext frame binding
    onlyIf forward (forwardToCore ext forwardError binding)

def handleClientFrame (frame : RunTurnFrame) (forwardError : Option String) : Action Unit := do
  match BrokerRequestBinding.fromFrame frame with
  | .error error =>
    modifyHandshake TransportHandshake.consumePreface
    writeLocalErrorOrDefer ext.float (← get).active "invalid_frame" error none
  | .ok binding =>
    match BrokerLineage.fromFrame frame with
    | .error error =>
      modifyHandshake TransportHandshake.consumePreface
      writeLocalErrorOrDefer ext.float (← get).active "invalid_frame" error binding
    | .ok _ =>
      if frame.kind = frameHello then
        handleHello ext frame binding forwardError
      else
        handleRequest ext options frame binding forwardError

def handleClientGarbage (error : ProtocolError) (binding : Option BrokerRequestBinding) :
    Action Unit := do
  modifyHandshake TransportHandshake.consumePreface
  writeLocalErrorOrDefer ext.float (← get).active "invalid_frame" error.toString binding

end Client

section Core

variable (ext : Externals) (options : Options)

def handleAmbiguousStream (frame : RunTurnFrame) (error : String) : Action Unit := do
  if (← get).handshake.holdsLocalDelivery then
    failPendingHandshake ext.float ("core_protocol_error", error) ("core_protocol_error", error)
  else
    let binding := (BrokerRequestBinding.fromFrame frame).toOption.join
    writeLocalErrorForBinding ext.float none "core_protocol_error" error binding .plain
    discardBrokerBinding binding

def isStale (s : Loop) (frame : RunTurnFrame) : Bool :=
  (frame.kind = frameHelloAck && s.handshake.helloAckSeen)
    || (frame.kind = frameTurnAccepted
      && (!s.handshake.canAcceptTurn || !s.active.any (turnFrameMatchesContext frame)))
    || (s.handshake.turnPending && turnGateResolution frame
      && !s.active.any (turnFrameMatchesContext frame))

def observeHelloAck (frame : RunTurnFrame) : Action Unit :=
  if frame.kind = frameHelloAck then
    modifyHandshake fun handshake => { handshake with helloAckSeen := true }
  else
    pure ()

def observeCore (frame : RunTurnFrame) : Action RunTurnFrame :=
  modifyGet fun s =>
    let (frame, router) := s.delivery.router.observeCore frame
    (frame, { s with delivery := { s.delivery with router } })

def numberCore (gatePending : Bool) (frame : RunTurnFrame) : Action RunTurnFrame := do
  if gatePending then
    observeCore frame
  else
    observeCore (← rewriteCore frame)

def handleHelloAck (frame : RunTurnFrame) : Action Unit := do
  updateDurableReady frame
  let frame ← augmentFrame options frame
  sendBound ext.float frame (← get).handshake.helloBinding .plain
  let (deferred, handshake) := { (← get).handshake with helloBinding := none }.acknowledge
  setHandshake handshake
  if handshake.turnPending then
    let (deferred, handshake) := handshake.takeDeferred
    setHandshake handshake
    releaseHandshakeQueues ext.float options deferred
  else
    releaseHandshakeQueues ext.float options deferred

def handleTurnAccepted (frame : RunTurnFrame) : Action Unit := do
  updateDurableReady frame
  let frame ← augmentFrame options frame
  sendBound ext.float frame (← get).handshake.turnBinding .plain
  let (deferred, handshake) := (← get).handshake.releaseAfterTurnAccept
  setHandshake handshake
  releaseHandshakeQueues ext.float options deferred

def handleRejection (frame : RunTurnFrame) : Action Unit := do
  let binding := (← get).handshake.turnBinding
  let rejectedTurn := (← get).active
  match ClientDelivery.bindFrame binding frame with
  | .error error =>
    let deferred ← resolveTurnFailure frame rejectedTurn
    writeLocalErrorForBinding ext.float none "core_protocol_error" error binding .plain
    rejectDeferredActions ext.float "turn_rejected"
      "turn core response carried a conflicting broker envelope" deferred
    discardBrokerBinding binding
    closeTurn
  | .ok bound =>
    processCoreFrameBody ext.float options bound
    discardBrokerBinding binding
    let deferred ← resolveTurnFailure frame rejectedTurn
    onlyIf (frame.kind ≠ frameTurnEnd) closeTurn
    releaseHandshakeQueues ext.float options deferred

def TransportHandshake.holds (handshake : TransportHandshake) (frame : RunTurnFrame) : Bool :=
  (handshake.awaitingAck && frame.kind ≠ frameHelloAck)
    || (handshake.turnPending && frame.kind ≠ frameTurnAccepted && frame.kind ≠ frameHelloAck
      && !turnGateResolution frame)

def crossGates (handshake : TransportHandshake) (frame : RunTurnFrame) : Action Unit :=
  if frame.kind = frameHelloAck && handshake.awaitingAck then
    handleHelloAck ext options frame
  else if frame.kind = frameTurnAccepted && handshake.turnPending then
    handleTurnAccepted ext options frame
  else if handshake.turnPending && turnGateResolution frame then
    handleRejection ext options frame
  else
    processCoreFrameBody ext.float options frame

def handleFreshCore (frame : RunTurnFrame) : Action Unit := do
  observeHelloAck frame
  let handshake := (← get).handshake
  let frame ← numberCore handshake.holdsLocalDelivery frame
  if handshake.holds frame then
    deferCore ext.float frame
  else
    let frame ← if handshake.holdsLocalDelivery then rewriteCore frame else pure frame
    crossGates ext options handshake frame

def handleCoreFrame (frame : RunTurnFrame) : Action Unit := do
  let s ← get
  if s.handshake.shouldDropLateCore frame s.active then
    pure ()
  else
    match correlatedStreamId frame with
    | .error error => handleAmbiguousStream ext frame error
    | .ok _ =>
      if isStale s frame then
        pure ()
      else
        handleFreshCore ext options frame

def handleCoreGarbage (error : ProtocolError) : Action Unit := do
  let handshake := (← get).handshake
  if handshake.dropLateTurnCore then
    pure ()
  else if handshake.holdsLocalDelivery then
    let message := "core emitted an invalid Host frame before handshake acknowledgement: "
      ++ error.toString
    failPendingHandshake ext.float ("core_protocol_error", message) ("core_protocol_error", message)
  else
    throw s!"core emitted an invalid Host frame: {error.toString}"

def abandonCore (message : String) : Action Unit := do
  closeCoreInput
  rejectPendingHandshake ext.float
  rejectAllBrokerRequests ext.float "core_unavailable" message

end Core

section Loop

variable (ext : Externals) (options : Options)

def Loop.isDeaf (s : Loop) : Bool :=
  !s.coreInputOpen || s.handshake.hasFailed || !s.clientOpen

def closeClient (error : Option String) : Action Unit :=
  modify fun s =>
    if !s.coreInputOpen || s.handshake.hasFailed then
      { s with clientOpen := false }
    else
      { s with
        clientOpen := false
        coreInputOpen := false
        terminalError := s.terminalError.or error }

def noteExit : Except String ExitStatus → Action Unit
  | .ok status => modify fun s => { s with coreStatus := some status }
  | .error error => noteTerminalError error

def expire : Action Unit := do
  abandonCore ext "turn core did not converge after process exit"
  noteTerminalError "core Host stdout did not close after leader exit and process-group cleanup"
  modify fun s => { s with coreReaderOpen := false }

def handle : Message → Action Unit
  | .clientFrame frame forwardError => do
    if (← get).isDeaf then pure () else handleClientFrame ext options frame.frame forwardError
  | .clientGarbage error binding => do
    if (← get).isDeaf then pure () else handleClientGarbage ext error binding
  | .clientEof => closeClient none
  | .clientError error => closeClient (some error)
  | .coreFrame frame => do
    if (← get).handshake.hasFailed then pure () else handleCoreFrame ext options frame.frame
  | .coreGarbage error => do
    if (← get).handshake.hasFailed then pure () else handleCoreGarbage ext error
  | .coreEof => do
    abandonCore ext "turn core closed before the broker request received a terminal response"
    modify fun s => { s with coreReaderOpen := false, coreExitDeadline := false }
  | .coreError error => do
    abandonCore ext "turn core reported a transport error before the broker request completed"
    noteTerminalError error
    modify fun s => { s with coreReaderOpen := false, coreExitDeadline := false }
  | .coreExited result => do
    closeCoreInput
    modify fun s => { s with coreWaitOpen := false }
    noteExit result
    if (← get).coreReaderOpen then
      modify fun s => { s with coreExitDeadline := true }
    else
      abandonCore ext "turn core exited before the broker request received a terminal response"
  | .timeout expired => do
    onlyIf ((← get).coreExitDeadline && expired) (expire ext)
  | .disconnected => do
    abandonCore ext "transport event channel disconnected before the broker request completed"
    noteTerminalError "transport event channel disconnected before core lifecycle convergence"
    modify fun s => { s with coreReaderOpen := false, coreWaitOpen := false }

def Loop.isDone (s : Loop) : Bool := !s.coreReaderOpen && !s.coreWaitOpen

def runLoop : List Message → Loop → Except String Loop
  | [], s => .ok s
  | message :: messages, s =>
    if s.isDone then
      .ok s
    else
      match handle ext options message s with
      | .ok ((), s) => runLoop messages s
      | .error error => .error error

def Loop.result (s : Loop) : Except String Unit :=
  match s.terminalError, s.coreStatus with
  | some error, _ => .error error
  | none, none => .error "core Host exit status was not observed"
  | none, some status =>
    if status.success then
      .ok ()
    else
      .error s!"core Host exited unsuccessfully: {status.description}"

end Loop

end Transport
