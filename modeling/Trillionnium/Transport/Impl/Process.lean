import Trillionnium.Transport.Impl.Delivery

/-!
The state of the transport loop and the handling of the frames that have crossed the gates. A failure
ends the transport. The log records what a run does; the transport itself does not read it.
-/

namespace Transport

open Host (Externals TurnContext U64 frameHostError saturatingSucc)
open Json Protocol StreamWindow

inductive Note where
  | plain
  | answers (action : DeferredHandshakeAction)
  | resync (gap : ResyncGap)
  | ended (gap : Option ResyncGap)

structure Sent where
  frame : RunTurnFrame
  binding : Option BrokerRequestBinding
  written : Bool
  note : Note

inductive Event where
  | sent (sent : Sent)
  | deferred (action : DeferredHandshakeAction)
  /-- A frame of the core has crossed the gates. -/
  | processed (frame : RunTurnFrame)
  /-- A deferred frame of the core goes on its way to the client. -/
  | released (frame : RunTurnFrame)
  /-- The deferred frame decides about the turn that is pending. -/
  | decided (frame : RunTurnFrame)
  /-- A deferred action is dropped. -/
  | discarded (action : DeferredHandshakeAction)
  /-- A turn is closed before it was accepted. -/
  | rejected (resolver : RunTurnFrame) (turn : Option TurnContext)

structure ExitStatus where
  success : Bool
  description : String
  deriving DecidableEq, Repr

structure Loop where
  delivery : ClientDelivery
  output : TransportOutput
  flow : StreamDelivery
  journal : TransportJournal
  active : Option TurnContext
  handshake : TransportHandshake
  durableReady : Bool
  clientOpen : Bool
  coreReaderOpen : Bool
  coreWaitOpen : Bool
  coreStatus : Option ExitStatus
  coreExitDeadline : Bool
  terminalError : Option String
  coreInputOpen : Bool
  log : List Event

abbrev Action := StateT Loop (Except String)

def onlyIf (c : Bool) (action : Action Unit) : Action Unit := if c then action else pure ()

def emit (event : Event) : Action Unit := modify fun s => { s with log := s.log ++ [event] }

def discard (actions : List DeferredHandshakeAction) : Action Unit :=
  modify fun s => { s with log := s.log ++ actions.map .discarded }

def setHandshake (handshake : TransportHandshake) : Action Unit :=
  modify fun s => { s with handshake }

def setFlow (flow : StreamDelivery) : Action Unit := modify fun s => { s with flow }

def setActive (active : Option TurnContext) : Action Unit := modify fun s => { s with active }

def modifyRouter (f : BrokerBindingRouter → BrokerBindingRouter) : Action Unit :=
  modify fun s => { s with delivery := { s.delivery with router := f s.delivery.router } }

def discardBrokerBinding (binding : Option BrokerRequestBinding) : Action Unit :=
  match binding with
  | some binding => modifyRouter (·.discardBinding binding)
  | none => pure ()

def localFrame (kind : String) (payload : Document) (context : Option TurnContext) :
    Action RunTurnFrame :=
  modifyGet fun s =>
    let (frame, output) := s.output.localFrame kind payload context
    (frame, { s with output })

def rewriteCore (frame : RunTurnFrame) : Action RunTurnFrame :=
  modifyGet fun s =>
    let (frame, output) := s.output.rewriteCoreWithContext frame s.active
    (frame, { s with output })

section Send

variable (codec : FloatCodec)

def settleSend (frame : RunTurnFrame) (note : Note)
    (result : Except String (Outcome × ClientDelivery)) : Action Unit := do
  let (outcome, delivery) ← result
  modify fun s => { s with
    delivery
    log := s.log ++ [.sent ⟨frame, outcome.binding, outcome.written, note⟩] }

def send (frame : RunTurnFrame) (note : Note) : Action Unit := do
  settleSend frame note ((← get).delivery.send codec frame)

def sendWithBinding (frame : RunTurnFrame) (binding : Option BrokerRequestBinding) (note : Note) :
    Action Unit := do
  settleSend frame note ((← get).delivery.sendWithBinding codec frame binding)

def sendBound (frame : RunTurnFrame) (binding : Option BrokerRequestBinding) (note : Note) :
    Action Unit :=
  match binding with
  | some binding => sendWithBinding codec frame (some binding) note
  | none => send codec frame note

def writeLocalErrorForBinding (context : Option TurnContext) (code message : String)
    (binding : Option BrokerRequestBinding) (note : Note) : Action Unit := do
  let frame ← localFrame frameHostError (errorPayload code message) context
  sendWithBinding codec frame binding note

def writeResyncRequired (gap : ResyncGap) : Action Unit := do
  let frame ← localFrame frameStreamResyncRequired gap.payload (← get).active
  send codec frame (.resync gap)

def rejectAllBrokerRequests (code message : String) : Action Unit := do
  let (bindings, router) := (← get).delivery.router.takeAllBindings
  modifyRouter fun _ => router
  bindings.forM fun binding => writeLocalErrorForBinding codec none code message (some binding) .plain

end Send

section Core

variable (codec : FloatCodec) (options : Options)

def updateDurableReady (frame : RunTurnFrame) : Action Unit :=
  modify fun s =>
    if frameReportsUnavailable frame then
      { s with durableReady := false }
    else if frameReportsDurable frame then
      { s with durableReady := true }
    else
      s

def augmentFrame (frame : RunTurnFrame) : Action RunTurnFrame := do
  let s ← get
  return augmentCoreFrame frame s.active options s.flow s.durableReady s.journal

def disableFlow (reason : String) : Action Unit := do
  let (released, flow) := (← get).flow.disableAndRelease
  setFlow flow
  let disabled ← localFrame frameStreamFlowDisabled (flowDisabledPayload reason released.length)
    (← get).active
  send codec disabled .plain
  released.forM fun frame => send codec frame .plain

def announceTerminalGap (announced : Bool) (gap : Option ResyncGap) : Action Unit :=
  match gap with
  | some gap => onlyIf (!announced) (writeResyncRequired codec gap)
  | none => pure ()

def appendTerminal : Action Unit :=
  modify fun s => if s.active.isSome then { s with journal := s.journal.append } else s

def processTurnEnd (frame : RunTurnFrame) : Action Unit := do
  let s ← get
  let terminalBinding := s.handshake.turnBinding
  let (gap, flow) := s.flow.terminalGap
  setFlow flow
  announceTerminalGap codec s.flow.gap.isSome gap
  let payload := gap.elim frame.payload (attachGapToPayload frame.payload)
  let frame := { frame with payload := attachDeliveryStatus payload (← get).delivery }
  sendBound codec frame terminalBinding (.ended gap)
  discardBrokerBinding terminalBinding
  appendTerminal
  modify fun s => { s with
    active := none
    flow := s.flow.finishTurn
    handshake :=
      if s.handshake.turnPending then s.handshake else s.handshake.finishTurn s.active }

def settleSubmit (result : Except String (SubmitResult × StreamDelivery)) : Action Unit :=
  match result with
  | .ok (.deliver frame, flow) => do
    setFlow flow
    send codec frame .plain
  | .ok (.queued, flow) => setFlow flow
  | .ok (.suppressed, flow) => setFlow flow
  | .ok (.gapStarted gap, flow) => do
    setFlow flow
    writeResyncRequired codec gap
  | .error error => disableFlow codec error

def processCoreFrameBody (frame : RunTurnFrame) : Action Unit := do
  emit (.processed frame)
  updateDurableReady frame
  onlyIf (frameReportsUnavailable frame && (← get).flow.isActive)
    (disableFlow codec "durable_event_store_unavailable")
  let frame ← augmentFrame options frame
  if frame.kind = frameTurnEnd then
    processTurnEnd codec frame
  else
    settleSubmit codec ((← get).flow.submit codec frame)

end Core

section Gates

variable (codec : FloatCodec) (options : Options)

def rejectDeferredActions (code message : String) : List DeferredHandshakeAction → Action Unit
  | [] => pure ()
  | .localError error :: actions => do
    writeLocalErrorForBinding codec error.context code message error.binding
      (.answers (.localError error))
    rejectDeferredActions code message actions
  | .localFrame frame :: actions => do
    writeLocalErrorForBinding codec frame.context code message frame.binding
      (.answers (.localFrame frame))
    rejectDeferredActions code message actions
  | .core frame :: actions => do
    discard [.core frame]
    rejectDeferredActions code message actions

def failGates (handshake : TransportHandshake) (helloError turnError : String × String) :
    Action Unit := do
  setHandshake handshake.fail.2
  onlyIf handshake.awaitingAck
    (writeLocalErrorForBinding codec none helloError.1 helloError.2 handshake.helloBinding .plain)
  onlyIf (handshake.turnPending && (handshake.turnBinding.isSome || !handshake.awaitingAck))
    (writeLocalErrorForBinding codec none turnError.1 turnError.2 handshake.turnBinding .plain)
  let error := if handshake.turnPending then turnError else helloError
  rejectDeferredActions codec error.1 error.2 handshake.fail.1

def failPendingHandshake (helloError turnError : String × String) : Action Unit := do
  let handshake := (← get).handshake
  onlyIf handshake.holdsLocalDelivery (failGates codec handshake helloError turnError)

def rejectPendingHandshake : Action Unit :=
  failPendingHandshake codec
    ("hello_ack_unavailable", "turn core closed before hello.ack was observed")
    ("turn_accept_unavailable", "turn core closed before turn.accepted was observed")

def deferAction (action : DeferredHandshakeAction) : Action (Option String) := do
  match (← get).handshake.defer codec action with
  | .ok handshake =>
    setHandshake handshake
    emit (.deferred action)
    return none
  | .error error =>
    failPendingHandshake codec ("resource_exhausted", error) ("resource_exhausted", error)
    return some error

def deferLocal (action : DeferredHandshakeAction) (binding : Option BrokerRequestBinding) :
    Action Unit := do
  match ← deferAction codec action with
  | none => pure ()
  | some error => writeLocalErrorForBinding codec none "resource_exhausted" error binding .plain

def deferCore (frame : RunTurnFrame) : Action Unit := do
  let _ ← deferAction codec (.core frame)

def writeLocalErrorOrDefer (context : Option TurnContext) (code message : String)
    (binding : Option BrokerRequestBinding) : Action Unit := do
  if (← get).handshake.holdsLocalDelivery then
    deferLocal codec (.localError ⟨context, code, message, binding⟩) binding
  else
    writeLocalErrorForBinding codec context code message binding .plain

def decodeDeferred (frame : RunTurnFrame) : Except String RunTurnFrame :=
  if (frame.encode codec).length > MechanicalLimits.default.maxFrameBytes then
    .error ("deferred core frame became invalid: "
      ++ "frame_boundary: frame exceeds the configured byte bound")
  else
    .ok frame

def drainFlow : Action Unit := do
  let (output, flow) := (← get).flow.drain
  setFlow flow
  let frames ← output
  frames.forM fun frame => send codec frame .plain

def releaseActions : List DeferredHandshakeAction → Action Unit
  | [] => pure ()
  | .localError error :: actions => do
    writeLocalErrorForBinding codec error.context error.code error.message error.binding
      (.answers (.localError error))
    releaseActions actions
  | .localFrame frame :: actions => do
    let response ← localFrame frame.kind frame.payload frame.context
    sendWithBinding codec response frame.binding (.answers (.localFrame frame))
    onlyIf frame.drainFlow (drainFlow codec)
    releaseActions actions
  | .core frame :: actions => do
    emit (.released frame)
    let frame ← decodeDeferred codec frame
    let frame ← rewriteCore frame
    processCoreFrameBody codec options frame
    releaseActions actions

structure Scan where
  before : List DeferredHandshakeAction
  stale : List DeferredHandshakeAction
  resolver : Option RunTurnFrame
  after : List DeferredHandshakeAction

def scanResolver (active : Option TurnContext) :
    List DeferredHandshakeAction → Except String Scan
  | [] => .ok ⟨[], [], none, []⟩
  | .core frame :: actions => do
    let frame ← decodeDeferred codec frame
    if turnGateResolution frame || frame.kind = frameTurnAccepted then
      if active.any (turnFrameMatchesContext frame) then
        return ⟨[], [], some frame, actions⟩
      else
        let scan ← scanResolver active actions
        return { scan with stale := .core frame :: scan.stale }
    else
      let scan ← scanResolver active actions
      return { scan with before := .core frame :: scan.before }
  | action :: actions => do
    let scan ← scanResolver active actions
    return { scan with before := action :: scan.before }

def deliverTurnAccepted (frame : RunTurnFrame) (binding : Option BrokerRequestBinding) :
    Action Unit := do
  updateDurableReady frame
  let frame ← augmentFrame options frame
  sendBound codec frame binding .plain

def resolveTurnFailure (resolver : RunTurnFrame) (rejectedTurn : Option TurnContext) :
    Action (List DeferredHandshakeAction) := do
  let (deferred, handshake) := (← get).handshake.resolveTurnFailure rejectedTurn
  setHandshake handshake
  emit (.rejected resolver rejectedTurn)
  return deferred

def closeTurn : Action Unit := modify fun s => { s with active := none, flow := s.flow.finishTurn }

def releaseRejected (scan : Scan) (resolver : RunTurnFrame) : Action Unit := do
  let rewritten ← rewriteCore resolver
  let rejectedTurn := (← get).active
  let binding := (← get).handshake.turnBinding
  match ClientDelivery.bindFrame binding rewritten with
  | .error error =>
    let rejectedActions ← resolveTurnFailure resolver rejectedTurn
    discard (scan.before ++ scan.after)
    onlyIf (resolver.kind ≠ frameTurnEnd) closeTurn
    writeLocalErrorForBinding codec none "core_protocol_error" error binding .plain
    rejectDeferredActions codec "turn_rejected"
      "turn core response carried a conflicting broker envelope" rejectedActions
    discardBrokerBinding binding
  | .ok bound =>
    processCoreFrameBody codec options bound
    let retained := (← get).handshake.turnBinding
    let rejectedActions ← resolveTurnFailure resolver rejectedTurn
    discardBrokerBinding retained
    onlyIf (resolver.kind ≠ frameTurnEnd) closeTurn
    rejectDeferredActions codec "turn_rejected" "turn core rejected the turn before turn.accepted"
      (scan.before ++ scan.after ++ rejectedActions)

def releaseAccepted (scan : Scan) (resolver : RunTurnFrame) : Action Unit := do
  let binding := (← get).handshake.turnBinding
  let accepted ← rewriteCore resolver
  deliverTurnAccepted codec options accepted binding
  let (deferred, handshake) := (← get).handshake.releaseAfterTurnAccept
  setHandshake handshake
  releaseActions codec options (scan.before ++ scan.after ++ deferred)

def releaseHandshakeQueues (actions : List DeferredHandshakeAction) : Action Unit := do
  if (← get).handshake.turnPending then
    let scan ← scanResolver codec (← get).active actions
    discard scan.stale
    match scan.resolver with
    | none =>
      let handshake ← (← get).handshake.restoreDeferred codec (scan.before ++ scan.after)
      setHandshake handshake
    | some resolver =>
      emit (.decided resolver)
      if resolver.kind = frameTurnAccepted then
        releaseAccepted codec options scan resolver
      else
        releaseRejected codec options scan resolver
  else
    releaseActions codec options actions

end Gates

end Transport
