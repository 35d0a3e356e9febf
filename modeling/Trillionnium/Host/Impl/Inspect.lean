import Trillionnium.Host.Impl.Deliver

/-!
The read-only inspection of turns and calls. An answer does not take a number of the turn, an error
about the active turn does.
-/

namespace Host

open CallRegistry (CallEvent CallEventKind CallKey CallSnapshot EffectiveState RegistryError
  TerminalRecord)
open Json
open Protocol

section Parse

structure InspectRequest where
  context : TurnContext
  requestSha256 : String
  inclusiveCursor : Nat
  limit : Nat
  callId : Option String

variable (ext : Externals) (frame : RunTurnFrame)

def isValidId (value : String) : Bool := Text.isId value 256

def optionalCorrelatedId (field : String) (envelope : Option String) :
    Except String (Option String) := do
  let payload ← payloadString
  refuse (Disagree envelope payload) s!"{field} envelope and payload values conflict"
  return envelope.or payload
where
  payloadString : Except String (Option String) :=
    match (frame.payload.get? field).map Document.value with
    | none => .ok none
    | some .null => .ok none
    | some (.string s) => .ok (some s)
    | some _ => .error s!"{field} must be a string"

def correlatedId (field : String) (envelope : Option String) : Except String String := do
  match ← optionalCorrelatedId frame field envelope with
  | some value => return value
  | none => .error s!"inspect requires {field}"

def optionalPayloadString (field : String) : Except String (Option String) :=
  match (frame.payload.get? field).map Document.value with
  | none => .ok none
  | some .null => .ok none
  | some (.string s) =>
    if (utf8 s).contains 0 then .error s!"{field} must be a NUL-free string" else .ok (some s)
  | some _ => .error s!"{field} must be a NUL-free string"

def payloadStringAlias (first second : String) : Except String (Option String) := do
  let left ← optionalPayloadString frame first
  let right ← optionalPayloadString frame second
  refuse (Disagree left right) s!"{first} and {second} conflict"
  return left.or right

def payloadU64 (field error : String) (otherwise : Nat) : Except String Nat :=
  match frame.payload.get? field with
  | none => .ok otherwise
  | some d =>
    match asU64 d with
    | .ok n => .ok n.val
    | .error _ => .error error

def inspectStream (sessionId profileId taskId turnId : String) : Except String String := do
  let derived := stableStreamId ext sessionId profileId taskId turnId
  let supplied ← optionalCorrelatedId frame "turn_stream_id" (frame.turnStreamId.or frame.streamId)
  refuse (Disagree supplied (some derived)) "turn_stream_id does not match the stable turn scope"
  return derived

def inspectDigest (active : Option ActiveTurn) : Except String String := do
  let claimed ← payloadStringAlias frame "request_sha256" "turn_request_sha256"
  let digest ← boundDigest claimed
  refuse (!Text.isSha256 digest) "request_sha256 must be a lowercase SHA-256"
  return digest
where
  boundDigest (claimed : Option String) : Except String String :=
    match claimed, active with
    | some value, some active =>
      if active.requestDigest ≠ value then
        .error "request_sha256 does not match the active turn"
      else
        .ok value
    | some value, none => .ok value
    | none, some active => .ok active.requestDigest
    | none, none => .error "inspect requires request_sha256 outside the active turn"

def inspectCallId (requireCallId : Bool) : Except String (Option String) :=
  if requireCallId then do
    let value ← correlatedId frame "call_id" frame.callId
    refuse (!isValidId value) "call_id is malformed"
    return some value
  else
    return none

def parseInspectRequest (active : Option ActiveTurn) (requireCallId : Bool) :
    Except String InspectRequest := do
  refuse (!frame.payload.isObject) "inspect payload must be an object"
  let sessionId ← correlatedId frame "session_id" frame.sessionId
  let taskId ← correlatedId frame "task_id" frame.taskId
  let turnId ← correlatedId frame "turn_id" frame.turnId
  let profileId ← optionalCorrelatedId frame "profile_id" frame.profileId
  let profileId := profileId.getD ((active.map fun active => active.context.profileId).getD
    defaultProfileId)
  [("session_id", sessionId), ("profile_id", profileId), ("task_id", taskId),
    ("turn_id", turnId)].forM fun (label, value) =>
      refuse (!isValidId value) s!"{label} is malformed"
  let turnStreamId ← inspectStream ext frame sessionId profileId taskId turnId
  refuse (active.any fun active =>
      active.context.sessionId ≠ sessionId || active.context.profileId ≠ profileId
        || active.context.taskId ≠ taskId || active.context.turnId ≠ turnId
        || active.context.turnStreamId ≠ turnStreamId)
    "inspect scope does not match the active turn"
  let requestSha256 ← inspectDigest frame active
  let inclusiveCursor ← payloadU64 frame "inclusive_cursor" "inclusive_cursor must be a u64" 0
  let limit ← payloadU64 frame "limit" "limit must be a positive integer" 64
  refuse (limit = 0 ∨ limit > maxWireInspectLimit)
    s!"limit must be between 1 and {maxWireInspectLimit}"
  let callId ← inspectCallId frame requireCallId
  return {
    context := ⟨turnStreamId, sessionId, profileId, taskId, turnId, requestSha256⟩
    requestSha256 := requestSha256
    inclusiveCursor := inclusiveCursor
    limit := limit
    callId := callId
  }

end Parse

section Encode

def terminalMembers (generation : Nat) (terminal : TerminalRecord) : List (String × Document) := [
  ("generation", .ofU64 generation),
  ("terminal_kind", .ofString terminal.terminalKind),
  ("exit_code", .ofOption .ofInt terminal.exitCode),
  ("signal", .ofOption .ofInt terminal.signal),
  ("observation_sha256", .ofString terminal.observationSha256),
  ("stdout_bytes", .ofU64 terminal.stdoutBytes),
  ("stderr_bytes", .ofU64 terminal.stderrBytes)]

def encodeEffectiveState : EffectiveState → Document
  | .accepted => .object [("kind", .ofString "accepted")]
  | .cancelledBeforeSpawn => .object [("kind", .ofString "cancelled_before_spawn")]
  | .started generation pid => .object [
      ("kind", .ofString "started"),
      ("generation", .ofU64 generation),
      ("pid", .ofOption .ofU64 pid)]
  | .provenNotStartedAfterDisconnect => .object [
      ("kind", .ofString "proven_not_started_after_disconnect")]
  | .unknownAfterDisconnect generation pid => .object [
      ("kind", .ofString "unknown_after_disconnect"),
      ("generation", .ofU64 generation),
      ("pid", .ofOption .ofU64 pid)]
  | .terminal generation terminal =>
    .object (("kind", .ofString "terminal") :: terminalMembers generation terminal)

def encodeCallSnapshot (snapshot : CallSnapshot) : Document :=
  .object [
    ("call_id", .ofString snapshot.key.callId),
    ("session_id", .ofString snapshot.key.scope.sessionId),
    ("profile_id", .ofString snapshot.key.scope.profileId),
    ("task_id", .ofString snapshot.key.scope.taskId),
    ("turn_id", .ofString snapshot.key.scope.turnId),
    ("turn_stream_id", .ofString snapshot.key.scope.turnStreamId),
    ("request_sha256", .ofString snapshot.request.requestSha256),
    ("binding_fingerprint", .ofString snapshot.request.bindingFingerprint),
    ("tool", .ofString snapshot.request.tool),
    ("target_id", .ofOption .ofString snapshot.request.targetId),
    ("state", encodeEffectiveState snapshot.state),
    ("cancellation_requested", .ofBool snapshot.cancellationRequested),
    ("connection_lost", .ofBool snapshot.connectionLost),
    ("earliest_history_seq", .ofU64 snapshot.earliestHistorySeq),
    ("next_event_seq", .ofU64 snapshot.nextEventSeq)]

def encodeCallEventKind : CallEventKind → Document
  | .accepted => .object [("kind", .ofString "accepted")]
  | .spawnInhibited => .object [("kind", .ofString "spawn_inhibited")]
  | .spawnClaimed generation => .object [
      ("kind", .ofString "spawn_claimed"),
      ("generation", .ofU64 generation)]
  | .pidObserved generation pid => .object [
      ("kind", .ofString "pid_observed"),
      ("generation", .ofU64 generation),
      ("pid", .ofU64 pid)]
  | .cancelRequested => .object [("kind", .ofString "cancel_requested")]
  | .connectionLost => .object [("kind", .ofString "connection_lost")]
  | .connectionAttached => .object [("kind", .ofString "connection_attached")]
  | .terminalRecorded generation terminal =>
    .object (("kind", .ofString "terminal_recorded") :: terminalMembers generation terminal)

def encodeCallEvent (event : CallEvent) : Document :=
  .object [("seq", .ofU64 event.seq), ("event", encodeCallEventKind event.kind)]

def readOnly : List (String × Document) := [
  ("side_effects", .ofBool false),
  ("automatic_redispatch", .ofBool false)]

end Encode

section Handlers

variable (ext : Externals)

def inspectionFrame (kind : String) (payload : Document) (context : TurnContext)
    (callId : Option String) (state : CoreState) : Run (RunTurnFrame × CoreState) := do
  let (frame, state) ← newFrame kind payload none ⟨callId, none, none⟩ state
  return ({ frame with
    streamId := some context.turnStreamId
    turnStreamId := some context.turnStreamId
    sessionId := some context.sessionId
    profileId := some context.profileId
    taskId := some context.taskId
    turnId := some context.turnId }, state)

def deliverBoundedInspection (response : RunTurnFrame) (context : TurnContext) (state : CoreState) :
    Run CoreState :=
  if IsDeliverable (response.encode ext.float) then
    deliverFrame response state
  else
    deliverHostError (some context) "inspect_response_too_large"
      "inspect response exceeds the Host frame bound; retry with a smaller limit" state

def turnInspectionPayload (requestSha256 : String) :
    Persistence.StoredInspection → Except String Document
  | .conflict error => .error error
  | .unavailable status error => .ok (.object ([
      ("status", .ofString "unavailable"),
      ("event_log_status", .ofString status),
      ("event_log_error", .ofOption .ofString error)] ++ readOnly))
  | .found inspection => .ok (.object ([
      ("status", .ofString (if inspection.totalEvents = 0 then "not_found" else "found")),
      ("source", .ofString "durable_event_store"),
      ("request_sha256", .ofString requestSha256),
      ("inclusive_cursor", .ofU64 inspection.inclusiveCursor),
      ("next_cursor", .ofU64 inspection.nextCursor),
      ("total_events", .ofU64 inspection.totalEvents),
      ("complete", .ofBool inspection.complete),
      ("has_more", .ofBool inspection.hasMore),
      ("frames", .ofList (inspection.frames.map RunTurnFrame.toDocument))] ++ readOnly))

def answerInspection (kind : String) (request : InspectRequest) (callId : Option String)
    (payload : Except (String × String) Document) (state : CoreState) : Run CoreState :=
  match payload with
  | .error (code, error) => deliverHostError (some request.context) code error state
  | .ok payload => do
    let (response, state) ← inspectionFrame kind payload request.context callId state
    deliverBoundedInspection ext response request.context state

def conflicting {α : Type} (result : Except String α) : Except (String × String) α :=
  result.mapError fun error => ("inspect_conflict", error)

def handleTurnInspect (frame : RunTurnFrame) (state : CoreState) : Run CoreState :=
  match parseInspectRequest ext frame state.active false with
  | .error error =>
    deliverHostError (state.active.map ActiveTurn.context) "invalid_inspect_request" error state
  | .ok request => do
    let inspection ← state.persistence.inspect request.context.durableScope request.requestSha256
      request.inclusiveCursor request.limit
    answerInspection ext frameTurnInspectResult request none
      (conflicting (turnInspectionPayload request.requestSha256 inspection)) state

def callInspectionPayload (request : InspectRequest) (callId : String) :
    Persistence.StoredInspection → Except String Document
  | .conflict error => .error error
  | .unavailable status error => .ok (.object ([
      ("status", .ofString "unavailable"),
      ("source", .ofString "durable_event_store"),
      ("event_log_status", .ofString status),
      ("event_log_error", .ofOption .ofString error)] ++ readOnly))
  | .found inspection =>
    let all := inspection.frames.filter fun frame => frame.callId = some callId
    let finish := min (request.inclusiveCursor + request.limit) all.length
    if inspection.hasMore then
      .error "durable turn exceeds the bounded call-inspection scan"
    else if request.inclusiveCursor > all.length then
      .error s!"inclusive cursor {request.inclusiveCursor} is after next call cursor {all.length}"
    else
      .ok (.object ([
        ("status", .ofString (if all.length = 0 then "not_found" else "found")),
        ("source", .ofString "durable_event_store"),
        ("request_sha256", .ofString request.requestSha256),
        ("call_id", .ofString callId),
        ("inclusive_cursor", .ofU64 request.inclusiveCursor),
        ("next_cursor", .ofU64 finish),
        ("total_call_events", .ofU64 all.length),
        ("turn_complete", .ofBool inspection.complete),
        ("has_more", .ofBool (finish < all.length)),
        ("frames", .ofList (((all.take finish).drop request.inclusiveCursor).map
          RunTurnFrame.toDocument))] ++ readOnly))

def durableCallInspection (request : InspectRequest) (callId : String) (persistence : Persistence) :
    Run (Except (String × String) Document) := do
  let inspection ← persistence.inspect request.context.durableScope request.requestSha256 0
    maxDurableCallScan
  return conflicting (callInspectionPayload request callId inspection)

def livePayload (request : InspectRequest) (snapshot : CallSnapshot) (history : List CallEvent) :
    Except (String × String) Document :=
  let selected := history.take request.limit
  let nextCursor := (selected.getLast?.map fun event => min (event.seq + 1) (2 ^ 64 - 1)).getD
    request.inclusiveCursor
  if request.inclusiveCursor > snapshot.nextEventSeq then
    .error ("inspect_conflict",
      s!"inclusive cursor {request.inclusiveCursor} is after next call cursor {snapshot.nextEventSeq}")
  else if request.inclusiveCursor < snapshot.earliestHistorySeq then
    .ok (.object ([
      ("status", .ofString "history_truncated"),
      ("source", .ofString "live_registry"),
      ("snapshot", encodeCallSnapshot snapshot),
      ("requested_cursor", .ofU64 request.inclusiveCursor),
      ("earliest_cursor", .ofU64 snapshot.earliestHistorySeq),
      ("next_cursor", .ofU64 snapshot.nextEventSeq)] ++ readOnly))
  else
    .ok (.object ([
      ("status", .ofString "found"),
      ("source", .ofString "live_registry"),
      ("snapshot", encodeCallSnapshot snapshot),
      ("inclusive_cursor", .ofU64 request.inclusiveCursor),
      ("next_cursor", .ofU64 nextCursor),
      ("has_more", .ofBool (nextCursor < snapshot.nextEventSeq)),
      ("events", .ofList (selected.map encodeCallEvent)),
      ("raw_output_available", .ofBool false)] ++ readOnly))

def liveSnapshot (key : CallKey) (active : Option ActiveTurn) :
    Run (CallRegistry.Result CallSnapshot) :=
  match active with
  | some _ => perform (.snapshot key)
  | none => return .error .notFound

def inspectCall (request : InspectRequest) (callId : String) (state : CoreState) :
    Run (Except (String × String) Document) := do
  let key := ⟨request.context.registryScope, callId⟩
  match ← liveSnapshot key state.active with
  | .ok snapshot =>
    match ← perform (.historyFrom key request.inclusiveCursor) with
    | .ok history => return livePayload request snapshot history
    | .error error => return .error ("inspect_state_error", error.toString)
  | .error .notFound => durableCallInspection request callId state.persistence
  | .error error => return .error ("inspect_state_error", error.toString)

def handleCallInspect (frame : RunTurnFrame) (state : CoreState) : Run CoreState :=
  match parseInspectRequest ext frame state.active true with
  | .error error =>
    deliverHostError (state.active.map ActiveTurn.context) "invalid_inspect_request" error state
  | .ok request => do
    let callId := request.callId.getD ""
    let payload ← inspectCall request callId state
    answerInspection ext frameCallInspectResult request (some callId) payload state

end Handlers

end Host
