import Trillionnium.Protocol.Frame

/-!
The requests that a client puts into the payload of its frames, and the checks on frames and requests.
-/

namespace Protocol

open Json

section Checks

def validateLabel (name value : String) (maxBytes : Nat) : Result Unit :=
  reject (!Text.isText value maxBytes false) s!"{name} is empty, oversized, or contains control bytes"

def validateId (name value : String) (maxBytes : Nat) : Result Unit := validateLabel name value maxBytes

def validateOptional (check : String → String → Nat → Result Unit) (maxBytes : Nat) :
    String × Option String → Result Unit
  | (name, some value) => check name value maxBytes
  | (_, none) => .ok ()

def validateOptionalDigest (name : String) (value : Option String) : Result Unit :=
  reject (value.any fun value => !Text.isSha256 value) s!"{name} must be a lowercase SHA-256"

def Disagree (first second : Option String) : Prop := first.isSome ∧ second.isSome ∧ first ≠ second

instance (first second : Option String) : Decidable (Disagree first second) :=
  inferInstanceAs (Decidable (_ ∧ _ ∧ _))

def validateAliasPair (firstName : String) (first : Option String) (secondName : String)
    (second : Option String) : Result Unit :=
  reject (Disagree first second) s!"{firstName} conflicts with alias {secondName}"

def validateOptionalAlias (name : String) (first second : Option String) : Result Unit :=
  reject (Disagree first second) s!"envelope {name} conflicts with payload {name}"

def validateMirroredId (name : String) (envelope : Option String) (payload : String) : Result Unit :=
  reject (Disagree envelope (some payload)) s!"envelope {name} conflicts with payload {name}"

def validateProtocolVersion (version : Document) : Result Unit :=
  match version.value with
  | .number (.posInt n) => reject (n ≠ protocolVersion) "unsupported protocol_version"
  | .string s => reject (s ≠ toString protocolVersion) "unsupported protocol_version"
  | _ => .error (invalid "unsupported protocol_version")

def isCursor (cursor : Document) : Bool :=
  match cursor.value with
  | .number (.posInt _) => true
  | .string s => s ≠ "" && !s.toList.any Text.isControl
  | _ => false

def validateResumePair (cursor : Option Document) (token : Option String) : Result Unit := do
  reject (cursor.isSome ∧ token.isSome) "resume_cursor and resume_token are mutually exclusive"
  reject (cursor.any fun cursor => !isCursor cursor) "resume_cursor has an invalid shape"

end Checks

def RunTurnFrame.validateMechanical (frame : RunTurnFrame) (limits : MechanicalLimits) :
    Result Unit := do
  validateLabel "kind" frame.kind limits.maxLabelBytes
  reject (!frame.payload.isObject) "payload must be a JSON object"
  reject (frame.direction.any fun direction =>
      direction ≠ "client_to_host" && direction ≠ "host_to_client")
    "direction is not a supported transport role"
  validateOptionalDigest "frame_sha256" frame.frameSha256
  [("event_id", frame.eventId), ("connection_id", frame.connectionId),
    ("stream_id", frame.streamId), ("turn_stream_id", frame.turnStreamId),
    ("session_id", frame.sessionId), ("profile_id", frame.profileId), ("task_id", frame.taskId),
    ("turn_id", frame.turnId), ("call_id", frame.callId), ("job_id", frame.jobId)].forM
      (validateOptional validateId limits.maxIdBytes)
  [("tool", frame.tool), ("target", frame.target), ("target_id", frame.targetId)].forM
    (validateOptional validateLabel limits.maxLabelBytes)
  validateAliasPair "stream_id" frame.streamId "turn_stream_id" frame.turnStreamId
  validateAliasPair "target" frame.target "target_id" frame.targetId

structure RunTurnRequest where
  protocol : String
  protocolVersion : Document
  sessionId : String
  taskId : String
  turnId : String
  userInput : String
  profileId : Option String
  contextRef : Option String
  configGeneration : Option Document
  clientRequestId : Option String
  serverRequestId : Option String
  turnRequestSha256 : Option String
  resumeCursor : Option Document
  resumeToken : Option String
  priorConnectionId : Option String
  parentTurnId : Option String
  continuationOf : Option String

namespace RunTurnRequest

def ofDocument (d : Document) : Except Error RunTurnRequest :=
  if d.isObject then do
    return {
      protocol := ← (← required "protocol" (d.get? "protocol")).asString
      protocolVersion := ← required "protocol_version" (d.get? "protocol_version")
      sessionId := ← (← required "session_id" (d.get? "session_id")).asString
      taskId := ← (← required "task_id" (d.get? "task_id")).asString
      turnId := ← (← required "turn_id" (d.get? "turn_id")).asString
      userInput := ← (← required "user_input" (d.get? "user_input")).asString
      profileId := ← optional Document.asString (d.get? "profile_id")
      contextRef := ← optional Document.asString (d.get? "context_ref")
      configGeneration := ← optional .ok (d.get? "config_generation")
      clientRequestId := ← optional Document.asString (d.get? "client_request_id")
      serverRequestId := ← optional Document.asString (d.get? "server_request_id")
      turnRequestSha256 := ← optional Document.asString (d.get? "turn_request_sha256")
      resumeCursor := ← optional .ok (d.get? "resume_cursor")
      resumeToken := ← optional Document.asString (d.get? "resume_token")
      priorConnectionId := ← optional Document.asString (d.get? "prior_connection_id")
      parentTurnId := ← optional Document.asString (d.get? "parent_turn_id")
      continuationOf := ← optional Document.asString (d.get? "continuation_of")
    }
  else
    .error (.invalidType "a map")

def effectiveProfileId (request : RunTurnRequest) : String :=
  request.profileId.getD defaultProfileId

def validateMechanical (request : RunTurnRequest) (limits : MechanicalLimits) : Result Unit := do
  reject (request.protocol ≠ Protocol.protocol) "unsupported turn protocol"
  validateProtocolVersion request.protocolVersion
  validateId "session_id" request.sessionId limits.maxIdBytes
  validateId "task_id" request.taskId limits.maxIdBytes
  validateId "turn_id" request.turnId limits.maxIdBytes
  reject ((utf8 request.userInput).length > limits.maxUserInputBytes)
    "user_input exceeds the configured byte bound"
  reject ((utf8 request.userInput).contains 0) "user_input contains NUL"
  [("profile_id", request.profileId), ("context_ref", request.contextRef),
    ("client_request_id", request.clientRequestId), ("server_request_id", request.serverRequestId),
    ("resume_token", request.resumeToken), ("prior_connection_id", request.priorConnectionId),
    ("parent_turn_id", request.parentTurnId), ("continuation_of", request.continuationOf)].forM
      (validateOptional validateId limits.maxIdBytes)
  validateOptionalDigest "turn_request_sha256" request.turnRequestSha256
  validateAliasPair "parent_turn_id" request.parentTurnId "continuation_of" request.continuationOf
  validateResumePair request.resumeCursor request.resumeToken
  reject (request.priorConnectionId.isSome ∧ request.resumeCursor.isNone
      ∧ request.resumeToken.isNone)
    "prior_connection_id requires exactly one resume cursor or token"

end RunTurnRequest

structure TurnCancelRequest where
  sessionId : String
  turnId : String
  profileId : Option String
  taskId : Option String
  turnStreamId : Option String

namespace TurnCancelRequest

def ofDocument (d : Document) : Except Error TurnCancelRequest :=
  if d.isObject then do
    return {
      sessionId := ← (← required "session_id" (d.get? "session_id")).asString
      turnId := ← (← required "turn_id" (d.get? "turn_id")).asString
      profileId := ← optional Document.asString (d.get? "profile_id")
      taskId := ← optional Document.asString (d.get? "task_id")
      turnStreamId := ← optional Document.asString (d.get? "turn_stream_id")
    }
  else
    .error (.invalidType "a map")

def validateMechanical (request : TurnCancelRequest) (limits : MechanicalLimits) : Result Unit := do
  validateId "session_id" request.sessionId limits.maxIdBytes
  validateId "turn_id" request.turnId limits.maxIdBytes
  [("profile_id", request.profileId), ("task_id", request.taskId),
    ("turn_stream_id", request.turnStreamId)].forM (validateOptional validateId limits.maxIdBytes)

end TurnCancelRequest

namespace RunTurnFrame

def turnRequest (frame : RunTurnFrame) (limits : MechanicalLimits) : Result RunTurnRequest := do
  frame.validateMechanical limits
  reject (frame.kind ≠ frameTurnStart) "frame kind is not turn.start"
  let request ← (RunTurnRequest.ofDocument frame.payload).mapError
    fun error => invalid s!"invalid turn.start payload: {error.toString}"
  request.validateMechanical limits
  validateMirroredId "session_id" frame.sessionId request.sessionId
  validateMirroredId "task_id" frame.taskId request.taskId
  validateMirroredId "turn_id" frame.turnId request.turnId
  reject (Disagree frame.profileId (some request.effectiveProfileId))
    "envelope profile_id conflicts with payload profile_id"
  return request

def turnCancel (frame : RunTurnFrame) (limits : MechanicalLimits) : Result TurnCancelRequest := do
  frame.validateMechanical limits
  reject (frame.kind ≠ frameTurnCancel) "frame kind is not turn.cancel"
  let request ← (TurnCancelRequest.ofDocument frame.payload).mapError
    fun error => invalid s!"invalid turn.cancel payload: {error.toString}"
  request.validateMechanical limits
  validateMirroredId "session_id" frame.sessionId request.sessionId
  validateMirroredId "turn_id" frame.turnId request.turnId
  validateOptionalAlias "profile_id" frame.profileId request.profileId
  validateOptionalAlias "task_id" frame.taskId request.taskId
  validateAliasPair "turn_stream_id" (frame.turnStreamId.or frame.streamId)
    "payload.turn_stream_id" request.turnStreamId
  return request

end RunTurnFrame

end Protocol
