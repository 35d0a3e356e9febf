import Trillionnium.Transport.Impl.Delivery

namespace Transport

open Host (Externals TurnContext refuse)
open Json Protocol StreamWindow

structure FlowControlPayload where
  controlSeq : Nat
  sessionId : String
  turnId : String
  turnStreamId : Option String
  streamId : Option String
  profileId : Option String
  taskId : Option String
  creditBytes : Option Nat
  resumedThroughCursor : Option Nat

namespace FlowControlPayload

def ofDocument (d : Document) : Except Error FlowControlPayload :=
  if d.isObject then do
    return {
      controlSeq := ← (← required "control_seq" (d.get? "control_seq")).asNat
      sessionId := ← (← required "session_id" (d.get? "session_id")).asString
      turnId := ← (← required "turn_id" (d.get? "turn_id")).asString
      turnStreamId := ← optional Document.asString (d.get? "turn_stream_id")
      streamId := ← optional Document.asString (d.get? "stream_id")
      profileId := ← optional Document.asString (d.get? "profile_id")
      taskId := ← optional Document.asString (d.get? "task_id")
      creditBytes := ← optional Document.asNat (d.get? "credit_bytes")
      resumedThroughCursor := ← optional Document.asNat (d.get? "resumed_through_cursor")
    }
  else
    .error (.invalidType "a map")

def effectiveProfile (payload : FlowControlPayload) : String :=
  payload.profileId.getD defaultProfileId

def effectiveTask (payload : FlowControlPayload) (context : TurnContext) : String :=
  payload.taskId.getD context.taskId

end FlowControlPayload

def payloadStreamId (payload : FlowControlPayload) : Except String String := do
  let stream ← agree payload.turnStreamId payload.streamId
    "flow-control payload stream_id conflicts with turn_stream_id"
  match stream with
  | some stream => .ok stream
  | none => .error "flow-control payload requires turn_stream_id or legacy stream_id"

def validateControlCorrelation (frame : RunTurnFrame) (payload : FlowControlPayload)
    (context : TurnContext) : Except String String := do
  let stream ← payloadStreamId payload
  [("session_id", payload.sessionId), ("profile_id", payload.effectiveProfile),
    ("task_id", payload.effectiveTask context), ("turn_id", payload.turnId),
    ("turn_stream_id", stream)].forM fun (label, value) =>
      refuse (!Text.isId value 256) s!"flow-control {label} is malformed"
  refuse (payload.sessionId ≠ context.sessionId ∨ payload.effectiveProfile ≠ context.profileId
      ∨ payload.effectiveTask context ≠ context.taskId ∨ payload.turnId ≠ context.turnId
      ∨ stream ≠ context.turnStreamId)
    "flow-control payload does not match the active turn"
  let envelopeStream ← agree frame.turnStreamId frame.streamId
    "flow-control envelope stream_id conflicts with turn_stream_id"
  [("session_id", frame.sessionId, context.sessionId),
    ("profile_id", frame.profileId, context.profileId),
    ("task_id", frame.taskId, context.taskId),
    ("turn_id", frame.turnId, context.turnId),
    ("turn_stream_id", envelopeStream, context.turnStreamId)].forM
      fun (label, envelope, expected) =>
        refuse (envelope.any (· ≠ expected))
          s!"flow-control envelope {label} does not match the active turn"
  refuse (envelopeStream.any (· ≠ stream))
    "flow-control envelope and payload stream identifiers conflict"
  return stream

def controlCommand (kind : String) (payload : FlowControlPayload) (maxCreditBytes : Nat) :
    Except String StreamControl :=
  if kind = frameStreamWindowUpdate then
    match payload.creditBytes with
    | none => .error "stream.window_update requires credit_bytes"
    | some creditBytes =>
      if creditBytes = 0 ∨ creditBytes > maxCreditBytes then
        .error s!"credit_bytes must be between 1 and {maxCreditBytes}"
      else if payload.resumedThroughCursor.isSome then
        .error "stream.window_update does not accept resumed_through_cursor"
      else
        .ok (.windowUpdate creditBytes)
  else if kind = frameStreamPause then
    if payload.creditBytes.isSome ∨ payload.resumedThroughCursor.isSome then
      .error "stream.pause accepts neither credit_bytes nor resumed_through_cursor"
    else
      .ok .pause
  else if kind = frameStreamResume then
    if payload.creditBytes.isSome then
      .error "stream.resume does not add credit; use stream.window_update"
    else
      .ok .resume
  else
    .error s!"unsupported flow-control frame {kind}"

def canonicalControl (payload : Document) (stream : String) : Document :=
  if payload.isObject then
    (Document.object (payload.members.filter (·.1 ≠ "stream_id"))).insert "turn_stream_id"
      (.ofString stream)
  else
    payload

def parseFlowControl (ext : Externals) (frame : RunTurnFrame) (context : TurnContext)
    (maxCreditBytes : Nat) : Except String ParsedFlowControl := do
  let payload ← (FlowControlPayload.ofDocument frame.payload).mapError
    fun error => s!"invalid {frame.kind} payload: {error.toString}"
  let stream ← validateControlCorrelation frame payload context
  let command ← controlCommand frame.kind payload maxCreditBytes
  return {
    controlSeq := payload.controlSeq
    command
    resumedThroughCursor := payload.resumedThroughCursor
    requestFingerprint := Host.digestOf ext (canonicalControl frame.payload stream) }

def flowAckKind : StreamControl → String
  | .windowUpdate _ => frameStreamWindowAck
  | .pause => frameStreamPauseAck
  | .resume => frameStreamResumeAck
  | .close => "stream.close.ack"

def snapshotPayload (snapshot : StreamWindowSnapshot) : Document := .object [
  ("available_credit_bytes", .ofU64 snapshot.availableCreditBytes),
  ("max_credit_bytes", .ofU64 snapshot.maxCreditBytes),
  ("max_chunk_bytes", .ofU64 snapshot.maxChunkBytes),
  ("paused", .ofBool snapshot.paused),
  ("closed", .ofBool snapshot.closed),
  ("total_granted_bytes", .ofU64 snapshot.totalGrantedBytes),
  ("earliest_control_seq", .ofU64 snapshot.earliestControlSeq),
  ("next_control_seq", .ofU64 snapshot.nextControlSeq)]

def dispositionText : ApplyDisposition → String
  | .applied => "applied"
  | .existing => "existing"

def flowAckPayload (parsed : ParsedFlowControl) (disposition : ApplyDisposition)
    (snapshot : StreamWindowSnapshot) (flow : StreamDelivery) : Document := .object [
  ("status", .ofString (dispositionText disposition)),
  ("control_seq", .ofU64 parsed.controlSeq),
  ("window", snapshotPayload snapshot),
  ("buffered_frames", .ofU64 flow.queue.length),
  ("buffered_bytes", .ofU64 flow.queuedBytes),
  ("resync_required", .ofBool flow.gap.isSome),
  ("persist_before_flow", .ofBool true),
  ("automatic_redispatch", .ofBool false)]

end Transport
