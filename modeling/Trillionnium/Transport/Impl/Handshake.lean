import Trillionnium.Transport.Impl.Router

/-!
The two gates of the transport. Until a greeting is acknowledged, and until a turn is accepted, frames
of the core and responses of the transport itself wait in one queue.
-/

namespace Transport

open Host (TurnContext frameHostError)
open Json Protocol

inductive TransportHandshakeState where
  | open
  | awaitingAck
  | failed
  deriving DecidableEq, Repr

structure DeferredLocalError where
  context : Option TurnContext
  code : String
  message : String
  binding : Option BrokerRequestBinding
  deriving DecidableEq, Repr

structure DeferredLocalFrame where
  kind : String
  payload : Document
  context : Option TurnContext
  binding : Option BrokerRequestBinding
  drainFlow : Bool

inductive DeferredHandshakeAction where
  | localError (error : DeferredLocalError)
  | localFrame (frame : DeferredLocalFrame)
  | core (frame : RunTurnFrame)

namespace DeferredHandshakeAction

def contextBytes (context : TurnContext) : Nat :=
  (utf8 context.sessionId).length + (utf8 context.profileId).length + (utf8 context.taskId).length
    + (utf8 context.turnId).length + (utf8 context.turnStreamId).length
    + (utf8 context.requestSha256).length

def bindingBytes (binding : BrokerRequestBinding) : Nat :=
  (utf8 binding.requestId).length + (utf8 binding.requestSha256).length + 8

def estimatedBytes (codec : FloatCodec) : DeferredHandshakeAction → Nat
  | .localError error =>
    (utf8 error.code).length + (utf8 error.message).length + error.context.elim 0 contextBytes
      + error.binding.elim 0 bindingBytes + 128
  | .localFrame frame =>
    (utf8 frame.kind).length + (write codec frame.payload.value).length
      + frame.context.elim 0 contextBytes + frame.binding.elim 0 bindingBytes + 128
  | .core frame => (frame.encode codec).length

end DeferredHandshakeAction

structure TransportHandshake where
  state : TransportHandshakeState
  helloSeen : Bool
  helloAckSeen : Bool
  prefaceConsumed : Bool
  turnStarted : Bool
  turnPending : Bool
  turnAcceptedSeen : Bool
  helloBinding : Option BrokerRequestBinding
  turnBinding : Option BrokerRequestBinding
  dropLateTurnCore : Bool
  quarantinedTurn : Option TurnContext
  deferred : List DeferredHandshakeAction
  deferredBytes : Nat

def maxHandshakeDeferredFrames : Nat := 64
def maxHandshakeDeferredBytes : Nat := 4 * 1024 * 1024

def isPostTurnControlResponse (kind : String) : Bool :=
  [frameTurnInspectResult, frameCallInspectResult, "job.inspect.result", "job.wait.result",
    "job.attach.result", "job.detach.result", "job.control.result", "job.start.result", "job.error",
    "turn.cancel.accepted", "tool.cancel.accepted", frameHostError].contains kind

namespace TransportHandshake

def default : TransportHandshake where
  state := .open
  helloSeen := false
  helloAckSeen := false
  prefaceConsumed := false
  turnStarted := false
  turnPending := false
  turnAcceptedSeen := false
  helloBinding := none
  turnBinding := none
  dropLateTurnCore := false
  quarantinedTurn := none
  deferred := []
  deferredBytes := 0

def awaitingAck (handshake : TransportHandshake) : Bool := handshake.state = .awaitingAck

def hasFailed (handshake : TransportHandshake) : Bool := handshake.state = .failed

def canAcceptTurn (handshake : TransportHandshake) : Bool :=
  handshake.turnPending && !handshake.turnAcceptedSeen

def holdsLocalDelivery (handshake : TransportHandshake) : Bool :=
  handshake.awaitingAck || handshake.turnPending

def shouldDropLateCore (handshake : TransportHandshake) (frame : RunTurnFrame)
    (active : Option TurnContext) : Bool :=
  if !handshake.dropLateTurnCore then
    false
  else
    match handshake.quarantinedTurn, active with
    | none, _ => true
    | some _, none => !isPostTurnControlResponse frame.kind
    | some rejected, some active =>
      match BrokerLineage.fromFrame frame with
      | .error _ => true
      | .ok lineage =>
        if lineage.isEmpty || !lineage.stronglyMatches active then
          true
        else if contextScopeEqual rejected active then
          responseDigest frame ≠ some active.requestSha256
        else
          false

def consumePreface (handshake : TransportHandshake) : TransportHandshake :=
  { handshake with prefaceConsumed := true }

def beginHello (handshake : TransportHandshake) : Except String TransportHandshake :=
  if handshake.hasFailed then
    .error "transport handshake is unavailable"
  else if handshake.helloSeen then
    .error "duplicate hello is not valid on one transport connection"
  else if handshake.helloAckSeen then
    .error ("hello cannot arrive after the core startup acknowledgement "
      ++ "on one transport connection")
  else if handshake.prefaceConsumed then
    .error "hello must be the first client frame on one transport connection"
  else
    .ok { handshake with helloSeen := true, prefaceConsumed := true, state := .awaitingAck }

def beginTurn (handshake : TransportHandshake) : Except String TransportHandshake :=
  if handshake.hasFailed then
    .error "transport handshake is unavailable"
  else if handshake.turnPending then
    .error "a turn is already awaiting turn.accepted"
  else
    .ok { handshake with
      prefaceConsumed := true
      turnStarted := true
      turnAcceptedSeen := false
      turnBinding := none
      turnPending := true }

def takeDeferred (handshake : TransportHandshake) :
    List DeferredHandshakeAction × TransportHandshake :=
  (handshake.deferred, { handshake with deferred := [], deferredBytes := 0 })

def finishTurn (handshake : TransportHandshake) (retiredTurn : Option TurnContext) :
    TransportHandshake :=
  { handshake with
    turnPending := false
    state := .open
    turnBinding := none
    dropLateTurnCore := retiredTurn.isSome || handshake.dropLateTurnCore
    quarantinedTurn := retiredTurn.or handshake.quarantinedTurn
    deferred := []
    deferredBytes := 0 }

def reserve (handshake : TransportHandshake) (bytes : Nat) : Except String Nat :=
  match Checked.add handshake.deferredBytes bytes with
  | none => .error "transport handshake deferred byte count overflowed"
  | some total =>
    if handshake.deferred.length ≥ maxHandshakeDeferredFrames then
      .error "transport handshake deferred-frame bound exhausted"
    else if total > maxHandshakeDeferredBytes then
      .error "transport handshake deferred-byte bound exhausted"
    else
      .ok total

def defer (codec : FloatCodec) (handshake : TransportHandshake) (action : DeferredHandshakeAction) :
    Except String TransportHandshake :=
  match handshake.reserve (action.estimatedBytes codec) with
  | .error error => .error error
  | .ok total =>
    .ok { handshake with deferredBytes := total, deferred := handshake.deferred ++ [action] }

def acknowledge (handshake : TransportHandshake) :
    List DeferredHandshakeAction × TransportHandshake :=
  let handshake := { handshake with state := .open }
  if handshake.turnPending then ([], handshake) else handshake.takeDeferred

def releaseAfterTurnAccept (handshake : TransportHandshake) :
    List DeferredHandshakeAction × TransportHandshake :=
  takeDeferred { handshake with
    turnAcceptedSeen := true
    turnPending := false
    state := .open
    dropLateTurnCore := false }

def restoreDeferred (codec : FloatCodec) (handshake : TransportHandshake)
    (actions : List DeferredHandshakeAction) : Except String TransportHandshake :=
  actions.foldlM (defer codec) handshake

def resolveTurnFailure (handshake : TransportHandshake) (rejectedTurn : Option TurnContext) :
    List DeferredHandshakeAction × TransportHandshake :=
  takeDeferred { handshake with
    turnAcceptedSeen := false
    turnPending := false
    state := .open
    turnBinding := none
    dropLateTurnCore := true
    quarantinedTurn := rejectedTurn }

def fail (handshake : TransportHandshake) : List DeferredHandshakeAction × TransportHandshake :=
  takeDeferred { handshake with
    state := .failed
    turnPending := false
    helloBinding := none
    turnBinding := none
    dropLateTurnCore := true
    quarantinedTurn := none }

end TransportHandshake

end Transport
