import Trillionnium.EventStore.EventLog
import Trillionnium.EventStore.Impl.Record
import Trillionnium.Protocol.Request
import Trillionnium.TurnLoop.Basic

/-!
The data types of the control host: the context of a turn, the numbers of the frames that are sent, the
state of the journal and the turns that it has stored.
-/

namespace Host

open EventStore (EventInput)
open Json
open Protocol
open TurnLoop (ProviderTerminal TurnEvent)

structure Externals extends EventStore.Externals where
  debugStr : String → String

def frameHostError : String := "host.error"
def frameTurnCancelAccepted : String := "turn.cancel.accepted"
def frameToolCancelAccepted : String := "tool.cancel.accepted"
def frameProviderOpaque : String := "provider.opaque"
def hostImplementationV4 : String := "trillionnium-owner-open-r5-inspect-control-host-source"
def hostQueueDepth : Nat := 128
def maxInspectFrames : Nat := 4096
def maxWireInspectLimit : Nat := 256
def maxDurableCallScan : Nat := 4096

def limits : MechanicalLimits := .default

def turnRequestDigestSchema : String := "trillionnium.owner-open.turn-request-digest.v1"
def turnStreamSchema : String := "trillionnium.owner-open.turn-stream.v1"

abbrev U64 := Fin (2 ^ 64)

def saturatingSucc (n : U64) : U64 := ⟨min (n.val + 1) (2 ^ 64 - 1), by omega⟩

def refuse (c : Prop) [Decidable c] (message : String) : Except String Unit :=
  if c then .error message else .ok ()

structure TurnContext where
  turnStreamId : String
  sessionId : String
  profileId : String
  taskId : String
  turnId : String
  requestSha256 : String
  deriving DecidableEq, Repr

namespace TurnContext

def registryScope (context : TurnContext) : CallRegistry.TurnScope where
  sessionId := context.sessionId
  profileId := context.profileId
  taskId := context.taskId
  turnId := context.turnId
  turnStreamId := context.turnStreamId

def durableScope (context : TurnContext) : EventStore.TurnScope where
  sessionId := context.sessionId
  profileId := context.profileId
  taskId := context.taskId
  turnId := context.turnId
  turnStreamId := context.turnStreamId

end TurnContext

section Identity

variable (ext : Externals)

def digestOf (d : Document) : String := EventStore.sha256Hex ext.toExternals (write ext.float d.value)

def requestSha256 (request : RunTurnRequest) : String :=
  digestOf ext <| .object [
    ("schema", .ofString turnRequestDigestSchema),
    ("protocol", .ofString request.protocol),
    ("protocol_version", request.protocolVersion),
    ("session_id", .ofString request.sessionId),
    ("profile_id", .ofString request.effectiveProfileId),
    ("task_id", .ofString request.taskId),
    ("turn_id", .ofString request.turnId),
    ("config_generation", .ofOption id request.configGeneration),
    ("user_input", .ofString request.userInput),
    ("context_ref", .ofOption .ofString request.contextRef)]

def stableStreamId (sessionId profileId taskId turnId : String) : String :=
  "r5-stream-" ++ digestOf ext (.object [
    ("schema", .ofString turnStreamSchema),
    ("session_id", .ofString sessionId),
    ("profile_id", .ofString profileId),
    ("task_id", .ofString taskId),
    ("turn_id", .ofString turnId)])

def stableTurnStreamId (request : RunTurnRequest) : String :=
  stableStreamId ext request.sessionId request.effectiveProfileId request.taskId request.turnId

def turnContext (request : RunTurnRequest) : TurnContext where
  turnStreamId := stableTurnStreamId ext request
  sessionId := request.sessionId
  profileId := request.effectiveProfileId
  taskId := request.taskId
  turnId := request.turnId
  requestSha256 := requestSha256 ext request

end Identity

structure EventCorrelation where
  callId : Option String
  tool : Option String
  targetId : Option String

def EventCorrelation.default : EventCorrelation := ⟨none, none, none⟩

structure OutputState where
  connectionId : String
  nextHostSeq : U64
  nextTurnEventOrdinal : U64
  deriving DecidableEq, Repr

namespace OutputState

def new (connectionId : String) : OutputState := ⟨connectionId, 0, 0⟩

def restart (output : OutputState) : OutputState :=
  { output with nextTurnEventOrdinal := 0, nextHostSeq := 0 }

def nextBehind (frames : List RunTurnFrame) : Option U64 :=
  (frames.filterMap RunTurnFrame.hostSeq).max?.bind fun seq =>
    if h : seq.val + 1 < 2 ^ 64 then some ⟨seq.val + 1, h⟩ else none

def observeReplay (output : OutputState) (frames : List RunTurnFrame) : OutputState :=
  { output with
    nextHostSeq :=
      match nextBehind frames with
      | some next => max output.nextHostSeq next
      | none => output.nextHostSeq
    nextTurnEventOrdinal := ⟨min frames.length (2 ^ 64 - 1), by omega⟩ }

def eventId (stream : String) (ordinal : Nat) : String := s!"{stream}-event-{ordinal}"

def turnFrame (output : OutputState) (kind : String) (payload : Document) (context : TurnContext)
    (correlation : EventCorrelation) : RunTurnFrame × OutputState :=
  ({
    kind := kind
    seq := output.nextHostSeq
    payload := payload.insert "turn_request_sha256" (.ofString context.requestSha256)
    direction := some "host_to_client"
    clientSeq := none
    hostSeq := some output.nextHostSeq
    frameSha256 := none
    eventId := some (eventId context.turnStreamId output.nextTurnEventOrdinal.val)
    connectionId := some output.connectionId
    streamId := some context.turnStreamId
    turnStreamId := some context.turnStreamId
    sessionId := some context.sessionId
    profileId := some context.profileId
    taskId := some context.taskId
    turnId := some context.turnId
    callId := correlation.callId
    jobId := none
    tool := correlation.tool
    target := none
    targetId := correlation.targetId
    extensions := []
  }, { output with
    nextHostSeq := saturatingSucc output.nextHostSeq
    nextTurnEventOrdinal := saturatingSucc output.nextTurnEventOrdinal })

def controlFrame (output : OutputState) (kind : String) (payload : Document) (seq : U64)
    (correlation : EventCorrelation) : RunTurnFrame where
  kind := kind
  seq := seq
  payload := payload
  direction := some "host_to_client"
  clientSeq := none
  hostSeq := none
  frameSha256 := none
  eventId := some (eventId output.connectionId seq.val)
  connectionId := some output.connectionId
  streamId := none
  turnStreamId := none
  sessionId := none
  profileId := none
  taskId := none
  turnId := none
  callId := correlation.callId
  jobId := none
  tool := correlation.tool
  target := none
  targetId := correlation.targetId
  extensions := []

end OutputState

structure Persistence where
  hasStore : Bool
  configured : Bool
  error : Option String
  allowUnjournaledEffects : Bool
  deriving DecidableEq, Repr

namespace Persistence

def memoryOnly (allow : Bool) : Persistence := ⟨false, false, none, allow⟩

def opened (allow : Bool) : Persistence := ⟨true, true, none, allow⟩

def openFailed (error : String) (allow : Bool) : Persistence := ⟨false, true, some error, allow⟩

def status (persistence : Persistence) : String :=
  if persistence.error.isSome then
    "unavailable"
  else if persistence.hasStore then
    "durable"
  else if persistence.configured then
    "unavailable"
  else
    "best_effort_memory_only"

def isDurable (persistence : Persistence) : Bool :=
  persistence.hasStore && persistence.error.isNone

def effectAdmissionError (persistence : Persistence) : Option String :=
  if persistence.isDurable || (!persistence.configured && persistence.allowUnjournaledEffects) then
    none
  else
    some (persistence.error.getD
      "direct effects require a durable event store; memory-only source experiments require --allow-unjournaled-effects-for-development")

def disable (persistence : Persistence) (error : String) : Persistence :=
  { persistence with configured := true, error := some error }

end Persistence

def isAuthorityFrame (kind : String) : Bool :=
  ["turn.accepted", "tool.accepted", "tool.result", "turn.end", "turn.cancel.accepted",
    "turn.cancelled", "turn.rejected", "turn.failed"].contains kind

def InScope (frame : RunTurnFrame) (scope : EventStore.TurnScope) : Prop :=
  frame.turnStreamId = some scope.turnStreamId
    ∧ frame.sessionId = some scope.sessionId
    ∧ frame.profileId = some scope.profileId
    ∧ frame.taskId = some scope.taskId
    ∧ frame.turnId = some scope.turnId

instance (frame : RunTurnFrame) (scope : EventStore.TurnScope) : Decidable (InScope frame scope) :=
  inferInstanceAs (Decidable (_ ∧ _ ∧ _ ∧ _ ∧ _))

def frameInput (scope : EventStore.TurnScope) (requestSha256 : String) (eventId : String)
    (frame : RunTurnFrame) : EventInput where
  scope := scope
  eventId := eventId
  kind := frame.kind
  payload := .object [("request_sha256", .ofString requestSha256), ("frame", frame.toDocument)]

inductive StoredTurn where
  | empty
  | unavailable (error : String)
  | complete (frames : List RunTurnFrame)
  | incomplete (frames : List RunTurnFrame)
  | conflict (error : String)

namespace StoredTurn

def storedRequest (record : EventInput) : Option String :=
  (record.payload.get? "request_sha256").bind fun d => d.asString.toOption

def loadRecord (scope : EventStore.TurnScope) (requestSha256 : String) (record : EventInput) :
    Except String RunTurnFrame := do
  refuse (storedRequest record ≠ some requestSha256)
    "stored event request digest conflicts with the incoming turn"
  match record.payload.get? "frame" with
  | none => .error "stored event payload has no Host frame"
  | some d => do
    let frame ← (RunTurnFrame.ofDocument d).mapError Error.toString
    refuse (frame.kind ≠ record.kind ∨ frame.eventId ≠ some record.eventId)
      "stored Host frame does not match its event record identity"
    refuse (¬ InScope frame scope) "stored Host frame does not match its event-store turn scope"
    return frame

def noteTerminal (frame : RunTurnFrame) (index : Nat) (terminal : Option Nat) :
    Except String (Option Nat) :=
  if frame.kind = frameTurnEnd then
    if terminal.isSome then
      .error "stored turn has more than one terminal frame"
    else
      .ok (some index)
  else
    .ok terminal

def loadRecords (scope : EventStore.TurnScope) (requestSha256 : String) :
    List EventInput → List RunTurnFrame → Option Nat → Except String (List RunTurnFrame × Option Nat)
  | [], frames, terminal => .ok (frames, terminal)
  | record :: records, frames, terminal => do
    let frame ← loadRecord scope requestSha256 record
    let terminal ← noteTerminal frame frames.length terminal
    loadRecords scope requestSha256 records (frames ++ [frame]) terminal

def classify (scope : EventStore.TurnScope) (requestSha256 : String) (records : List EventInput) :
    StoredTurn :=
  if records.isEmpty then
    .empty
  else
    match loadRecords scope requestSha256 records [] none with
    | .error error => .conflict error
    | .ok (frames, none) => .incomplete frames
    | .ok (frames, some index) =>
      if index + 1 = frames.length then
        .complete frames
      else
        .conflict "stored turn contains events after its terminal frame"

end StoredTurn

inductive HostMessage where
  | inbound (decoded : Protocol.Result RunTurnFrame)
  | inputEof
  | inputError (error : String)
  | turnEvent (event : TurnEvent) (receipt : Nat)
  | turnComplete (result : Except String ProviderTerminal)

inductive Received where
  | message (message : HostMessage)
  | timeout
  | disconnected

structure ActiveTurn where
  context : TurnContext
  requestDigest : String
  durableScope : EventStore.TurnScope
  worker : Nat
  deriving DecidableEq, Repr

structure CoreState where
  persistence : Persistence
  output : OutputState
  active : Option ActiveTurn
  inputOpen : Bool
  deliveryAttached : Bool
  deliveryError : Option String
  deriving DecidableEq, Repr

def CoreState.new (persistence : Persistence) (connectionId : String) : CoreState where
  persistence := persistence
  output := .new connectionId
  active := none
  inputOpen := true
  deliveryAttached := true
  deliveryError := none

end Host
