import Trillionnium.Transport.Impl.Flow
import Trillionnium.Transport.Impl.Handshake

/-!
The frames that the transport sends to its client: the numbers that they get, the binding that the
router finds for them, and the connection that they are written to.
-/

namespace Transport

open Host (Externals TurnContext U64 frameHostError saturatingSucc)
open Json Protocol

def hostImplementationV5 : String := "trillionnium-owner-open-r5-inspect-flow-transport-source"

def isFlowControlKind (kind : String) : Bool :=
  [frameStreamWindowUpdate, frameStreamPause, frameStreamResume].contains kind

def turnGateResolution (frame : RunTurnFrame) : Bool :=
  [frameHostError, frameTurnEnd, "turn.rejected", "turn.failed", "turn.cancelled"].contains
    frame.kind

def bool? (d : Document) (name : String) : Option Bool :=
  (d.get? name).bind fun x =>
    match x.value with
    | .bool b => some b
    | _ => none

def frameReportsDurable (frame : RunTurnFrame) : Bool :=
  bool? frame.payload "durable_event_store" = some true
    || text? frame.payload "event_log_status" = some "durable"

def frameReportsUnavailable (frame : RunTurnFrame) : Bool :=
  bool? frame.payload "durable_event_store" = some false
    || (text? frame.payload "event_log_status").any (· ≠ "durable")
    || (text? frame.payload "job_journal_status").any (· ≠ "durable")
    || text? frame.payload "status" = some "journal_unavailable"

def scopeMembers : List String := [
  "turn_stream_id", "stream_id", "turn_id", "session_id", "task_id"]

def frameIsTurnScoped (frame : RunTurnFrame) (coreHostSeqPresent : Bool) : Bool :=
  if frame.kind = frameHelloAck then
    false
  else
    coreHostSeqPresent || frame.turnStreamId.isSome || frame.streamId.isSome || frame.turnId.isSome
      || frame.sessionId.isSome || frame.taskId.isSome
      || scopeMembers.any fun name => (text? frame.payload name).isSome

def streamKeyForFrame (frame : RunTurnFrame) : Option String :=
  frame.turnStreamId.or <| frame.streamId.or <|
    (text? frame.payload "turn_stream_id").or (text? frame.payload "stream_id")

structure TransportOutput where
  connectionId : String
  nextControlSeq : U64
  nextStreamSeq : HashMap (Option String) U64
  nextLocalEventOrdinal : U64

namespace TransportOutput

def zero : U64 := ⟨0, u64_pos⟩

def new (connectionId : String) : TransportOutput where
  connectionId := connectionId
  nextControlSeq := saturatingSucc zero
  nextStreamSeq := ∅
  nextLocalEventOrdinal := saturatingSucc zero

def takeStreamSeq (output : TransportOutput) (key : Option String) (floor : Option U64) :
    U64 × TransportOutput :=
  match output.nextStreamSeq.lookup key with
  | none =>
    (zero, { output with
      nextStreamSeq := output.nextStreamSeq.insert key (saturatingSucc zero) })
  | some cursor =>
    let value := floor.elim cursor (max cursor)
    (value, { output with nextStreamSeq := output.nextStreamSeq.insert key (saturatingSucc value) })

def takeControlSeq (output : TransportOutput) : U64 × TransportOutput :=
  (output.nextControlSeq,
    { output with nextControlSeq := saturatingSucc output.nextControlSeq })

def takeLocalEventId (output : TransportOutput) : String × TransportOutput :=
  (s!"{output.connectionId}-event-{output.nextLocalEventOrdinal.val}",
    { output with nextLocalEventOrdinal := saturatingSucc output.nextLocalEventOrdinal })

def keepCoreNumbers (frame : RunTurnFrame) : RunTurnFrame :=
  let marked := setExtension frame "core_seq" (.ofFin frame.seq)
  let marked := frame.hostSeq.elim marked fun seq =>
    setExtension marked "core_host_seq" (.ofFin seq)
  frame.connectionId.elim marked fun id => setExtension marked "core_connection_id" (.ofString id)

def renumber (output : TransportOutput) (frame : RunTurnFrame) (coreHostSeq : Option U64)
    (active : Option TurnContext) : RunTurnFrame × TransportOutput :=
  if frame.kind = frameHelloAck then
    ({ frame with seq := zero, hostSeq := none },
      { output with nextControlSeq := max output.nextControlSeq (saturatingSucc zero) })
  else if !frameIsTurnScoped frame coreHostSeq.isSome then
    let (seq, output) := output.takeControlSeq
    ({ frame with seq := seq, hostSeq := none }, output)
  else
    let key := (streamKeyForFrame frame).or (active.map TurnContext.turnStreamId)
    let (seq, output) := output.takeStreamSeq key coreHostSeq
    ({ frame with seq := seq, hostSeq := some seq }, output)

def rewriteCoreWithContext (output : TransportOutput) (frame : RunTurnFrame)
    (active : Option TurnContext) : RunTurnFrame × TransportOutput :=
  let (frame, output) := output.renumber (keepCoreNumbers frame) frame.hostSeq active
  let frame := { frame with
    connectionId := some output.connectionId
    direction := some "host_to_client" }
  match frame.eventId with
  | some _ => (frame, output)
  | none =>
    let (eventId, output) := output.takeLocalEventId
    ({ frame with eventId := some eventId }, output)

def localSeq (output : TransportOutput) (context : Option TurnContext) :
    (U64 × Option U64) × TransportOutput :=
  match context with
  | some context =>
    let (seq, output) := output.takeStreamSeq (some context.turnStreamId) none
    ((seq, some seq), output)
  | none =>
    let (seq, output) := output.takeControlSeq
    ((seq, none), output)

def localFrame (output : TransportOutput) (kind : String) (payload : Document)
    (context : Option TurnContext) : RunTurnFrame × TransportOutput :=
  let (eventId, output) := output.takeLocalEventId
  let ((seq, hostSeq), output) := output.localSeq context
  ({
    kind := kind
    seq := seq
    payload := context.elim payload fun context =>
      payload.insert "turn_request_sha256" (.ofString context.requestSha256)
    direction := some "host_to_client"
    clientSeq := none
    hostSeq := hostSeq
    frameSha256 := none
    eventId := some eventId
    connectionId := some output.connectionId
    streamId := context.map TurnContext.turnStreamId
    turnStreamId := context.map TurnContext.turnStreamId
    sessionId := context.map TurnContext.sessionId
    profileId := context.map TurnContext.profileId
    taskId := context.map TurnContext.taskId
    turnId := context.map TurnContext.turnId
    callId := none
    jobId := none
    tool := none
    target := none
    targetId := none
    extensions := []
  }, output)

end TransportOutput

structure ClientDelivery where
  attached : Bool
  error : Option String
  router : BrokerBindingRouter
  writes : Nat
  outcomes : Nat → Option String

structure Outcome where
  binding : Option BrokerRequestBinding
  written : Bool
  deriving DecidableEq, Repr

namespace ClientDelivery

def new (outcomes : Nat → Option String) : ClientDelivery where
  attached := true
  error := none
  router := .default
  writes := 0
  outcomes := outcomes

def writeEncoded (delivery : ClientDelivery) : Bool × ClientDelivery :=
  if delivery.attached then
    match delivery.outcomes delivery.writes with
    | none => (true, { delivery with writes := delivery.writes + 1 })
    | some error =>
      (false, { delivery with
        attached := false
        error := some error
        writes := delivery.writes + 1 })
  else
    (false, delivery)

def bindFrame (binding : Option BrokerRequestBinding) (frame : RunTurnFrame) :
    Except String RunTurnFrame :=
  match binding with
  | some binding => binding.apply frame
  | none => .ok frame

def sendWithSelectedBinding (codec : FloatCodec) (delivery : ClientDelivery) (frame : RunTurnFrame)
    (binding : Option BrokerRequestBinding) : Except String (Outcome × ClientDelivery) := do
  let frame ← bindFrame binding frame
  if (frame.encode codec).isEmpty
      || (frame.encode codec).length > MechanicalLimits.default.maxFrameBytes then
    .error "transport response frame exceeds the Host frame bound"
  else
    let (written, delivery) := delivery.writeEncoded
    return (⟨binding, written⟩, delivery)

def send (codec : FloatCodec) (delivery : ClientDelivery) (frame : RunTurnFrame) :
    Except String (Outcome × ClientDelivery) :=
  match delivery.router.peek frame with
  | some candidate => do
    let validated ← candidate.apply frame
    let (selected, router) := delivery.router.select validated
    sendWithSelectedBinding codec { delivery with router } validated selected
  | none => sendWithSelectedBinding codec delivery frame none

def sendWithBinding (codec : FloatCodec) (delivery : ClientDelivery) (frame : RunTurnFrame)
    (binding : Option BrokerRequestBinding) : Except String (Outcome × ClientDelivery) :=
  match binding with
  | some binding => do
    let validated ← binding.apply frame
    let router := delivery.router.consumeExplicit binding validated
    sendWithSelectedBinding codec { delivery with router } validated (some binding)
  | none => sendWithSelectedBinding codec delivery frame none

end ClientDelivery

structure TransportJournal where
  available : Bool
  error : Option String
  nextEvent : Nat
  outcomes : Nat → Option String

namespace TransportJournal

def status (journal : TransportJournal) : String :=
  if journal.available then
    "durable"
  else if journal.error.isSome then
    "unavailable"
  else
    "not_configured"

def append (journal : TransportJournal) : TransportJournal :=
  if journal.available then
    let journal' := { journal with nextEvent := journal.nextEvent + 1 }
    match journal.outcomes journal.nextEvent with
    | none => journal'
    | some error => { journal' with available := false, error := some error }
  else
    journal

end TransportJournal

def augmentHelloAck (payload : Document) (options : Options) (journal : TransportJournal) :
    Document :=
  [("host_implementation", .ofString hostImplementationV5),
    ("transport_flow_control", .ofBool true),
    ("flow_control_requires_durable_store", .ofBool true),
    ("flow_controlled_frame_kinds", .ofList (flowControlledFrameKinds.map .ofString)),
    ("transport_buffer_bytes", .ofU64 options.bufferBytes),
    ("transport_max_credit_bytes", .ofU64 options.maxCreditBytes),
    ("transport_max_chunk_bytes", .ofU64 options.maxChunkBytes),
    ("persist_before_flow", .ofBool true),
    ("transport_journal_status", .ofString journal.status),
    ("transport_journal_error", .ofOption .ofString journal.error)].foldl
      (fun d field => d.insert field.1 field.2) payload

def augmentTurnAccepted (payload : Document) (active : Option TurnContext) (flow : StreamDelivery)
    (durableReady : Bool) : Document :=
  let payload := active.elim payload fun context =>
    (payload.insert "turn_request_sha256" (.ofString context.requestSha256)).insert
      "turn_stream_id" (.ofString context.turnStreamId)
  (payload.insert "flow_control_status"
    (.ofString (if flow.isActive then "active" else "passthrough"))).insert
      "flow_control_available" (.ofBool durableReady)

def augmentCoreFrame (frame : RunTurnFrame) (active : Option TurnContext) (options : Options)
    (flow : StreamDelivery) (durableReady : Bool) (journal : TransportJournal) : RunTurnFrame :=
  if frame.kind = frameHelloAck then
    { frame with payload := augmentHelloAck frame.payload options journal }
  else if frame.kind = frameTurnAccepted then
    { frame with payload := augmentTurnAccepted frame.payload active flow durableReady }
  else if flow.gap.isSome && [frameToolResult, frameToolStarted].contains frame.kind then
    { frame with payload := frame.payload.insert "stream_resync_required" (.ofBool true) }
  else
    frame

def attachGapToPayload (payload : Document) (gap : ResyncGap) : Document :=
  (payload.insert "stream_resync_required" (.ofBool true)).insert "stream_gap" gap.payload

def attachDeliveryStatus (payload : Document) (delivery : ClientDelivery) : Document :=
  (payload.insert "transport_client_delivery_status_before_terminal_attempt"
    (.ofString (if delivery.attached then "attached" else "detached"))).insert
      "transport_client_delivery_error" (.ofOption .ofString delivery.error)

def errorPayload (code message : String) : Document := .object [
  ("code", .ofString code),
  ("message", .ofString message),
  ("transport_layer", .ofBool true),
  ("automatic_redispatch", .ofBool false)]

def flowDisabledPayload (reason : String) (released : Nat) : Document := .object [
  ("status", .ofString "disabled"),
  ("reason", .ofString reason),
  ("released_buffered_frames", .ofU64 released),
  ("automatic_redispatch", .ofBool false)]

end Transport
