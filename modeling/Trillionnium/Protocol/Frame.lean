import Trillionnium.Json.Lemmas.Size
import Trillionnium.Text.Checks

namespace Protocol

open Json

inductive ProtocolError where
  | frameBoundary (message : String)
  | invalidJson (message : String)
  | invalidFrame (message : String)
  deriving DecidableEq, Repr

def ProtocolError.toString : ProtocolError → String
  | .frameBoundary message => s!"frame_boundary: {message}"
  | .invalidJson message => s!"invalid_json: {message}"
  | .invalidFrame message => s!"invalid_frame: {message}"

abbrev Result (α : Type) := Except ProtocolError α

def invalid (message : String) : ProtocolError := .invalidFrame message

def reject (c : Prop) [Decidable c] (message : String) : Result Unit :=
  if c then .error (invalid message) else .ok ()

def frameHello : String := "hello"
def frameHelloAck : String := "hello.ack"
def frameTurnStart : String := "turn.start"
def frameTurnAccepted : String := "turn.accepted"
def frameTurnCancel : String := "turn.cancel"
def frameTurnEnd : String := "turn.end"
def frameToolAccepted : String := "tool.accepted"
def frameToolStarted : String := "tool.started"
def frameToolStdout : String := "tool.stdout"
def frameToolStderr : String := "tool.stderr"
def frameToolPty : String := "tool.pty"
def frameToolResult : String := "tool.result"
def frameToolCancel : String := "tool.cancel"
def frameProviderStatus : String := "provider.status"
def frameModelDelta : String := "model.delta"
def frameModelMessage : String := "model.message"
def frameTurnInspect : String := "turn.inspect"
def frameTurnInspectResult : String := "turn.inspect.result"
def frameCallInspect : String := "call.inspect"
def frameCallInspectResult : String := "call.inspect.result"

def protocol : String := "trillionnium.agent.turn.v1"
def protocolVersion : Nat := 1
def defaultProfileId : String := "owner-open"

structure MechanicalLimits where
  maxFrameBytes : Nat
  maxLabelBytes : Nat
  maxIdBytes : Nat
  maxUserInputBytes : Nat
  deriving DecidableEq, Repr

def MechanicalLimits.default : MechanicalLimits where
  maxFrameBytes := 1024 * 1024
  maxLabelBytes := 256
  maxIdBytes := 256
  maxUserInputBytes := 1024 * 1024

structure RunTurnFrame where
  kind : String
  seq : Fin (2 ^ 64)
  payload : Document
  direction : Option String
  clientSeq : Option (Fin (2 ^ 64))
  hostSeq : Option (Fin (2 ^ 64))
  frameSha256 : Option String
  eventId : Option String
  connectionId : Option String
  streamId : Option String
  turnStreamId : Option String
  sessionId : Option String
  profileId : Option String
  taskId : Option String
  turnId : Option String
  callId : Option String
  jobId : Option String
  tool : Option String
  target : Option String
  targetId : Option String
  extensions : List (String × Document)

namespace RunTurnFrame

def slots (frame : RunTurnFrame) : List (String × Option Document) := [
  ("kind", some (.ofString frame.kind)),
  ("seq", some (.ofFin frame.seq)),
  ("payload", some frame.payload),
  ("direction", frame.direction.map .ofString),
  ("client_seq", frame.clientSeq.map .ofFin),
  ("host_seq", frame.hostSeq.map .ofFin),
  ("frame_sha256", frame.frameSha256.map .ofString),
  ("event_id", frame.eventId.map .ofString),
  ("connection_id", frame.connectionId.map .ofString),
  ("stream_id", frame.streamId.map .ofString),
  ("turn_stream_id", frame.turnStreamId.map .ofString),
  ("session_id", frame.sessionId.map .ofString),
  ("profile_id", frame.profileId.map .ofString),
  ("task_id", frame.taskId.map .ofString),
  ("turn_id", frame.turnId.map .ofString),
  ("call_id", frame.callId.map .ofString),
  ("job_id", frame.jobId.map .ofString),
  ("tool", frame.tool.map .ofString),
  ("target", frame.target.map .ofString),
  ("target_id", frame.targetId.map .ofString)]

def fieldNames : List String := [
  "kind", "seq", "payload", "direction", "client_seq", "host_seq", "frame_sha256", "event_id",
  "connection_id", "stream_id", "turn_stream_id", "session_id", "profile_id", "task_id", "turn_id",
  "call_id", "job_id", "tool", "target", "target_id"]

theorem map_fst_slots (frame : RunTurnFrame) : frame.slots.map Prod.fst = fieldNames := rfl

theorem nodup_fieldNames : fieldNames.Nodup := by decide

def members (frame : RunTurnFrame) : List (String × Document) :=
  Document.present frame.slots ++ frame.extensions

def encode (codec : FloatCodec) (frame : RunTurnFrame) : Bytes :=
  write codec (.object (frame.members.map fun member => (member.1, member.2.value)))

def toDocument (frame : RunTurnFrame) : Document := .object frame.members

def ofDocument (d : Document) : Except Error RunTurnFrame :=
  if d.isObject then do
    return {
      kind := ← (← required "kind" (d.get? "kind")).asString
      seq := ← asU64 (← required "seq" (d.get? "seq"))
      payload := ← required "payload" (d.get? "payload")
      direction := ← optional Document.asString (d.get? "direction")
      clientSeq := ← optional asU64 (d.get? "client_seq")
      hostSeq := ← optional asU64 (d.get? "host_seq")
      frameSha256 := ← optional Document.asString (d.get? "frame_sha256")
      eventId := ← optional Document.asString (d.get? "event_id")
      connectionId := ← optional Document.asString (d.get? "connection_id")
      streamId := ← optional Document.asString (d.get? "stream_id")
      turnStreamId := ← optional Document.asString (d.get? "turn_stream_id")
      sessionId := ← optional Document.asString (d.get? "session_id")
      profileId := ← optional Document.asString (d.get? "profile_id")
      taskId := ← optional Document.asString (d.get? "task_id")
      turnId := ← optional Document.asString (d.get? "turn_id")
      callId := ← optional Document.asString (d.get? "call_id")
      jobId := ← optional Document.asString (d.get? "job_id")
      tool := ← optional Document.asString (d.get? "tool")
      target := ← optional Document.asString (d.get? "target")
      targetId := ← optional Document.asString (d.get? "target_id")
      extensions := d.members.filter fun member => !fieldNames.contains member.1
    }
  else
    .error (.invalidType "a map")

theorem isObject_toDocument (frame : RunTurnFrame) : frame.toDocument.isObject = true :=
  Document.isObject_object frame.members

theorem toDocument_eq {frame : RunTurnFrame} (h : frame.extensions = []) :
    frame.toDocument = .object (Document.present frame.slots) := by
  unfold toDocument members
  rw [h, List.append_nil]

theorem get?_toDocument {frame : RunTurnFrame} (h : frame.extensions = []) :
    ∀ slot ∈ frame.slots, frame.toDocument.get? slot.1 = slot.2 := by
  intro slot hmem
  rw [toDocument_eq h]
  apply Document.get?_object_present
  . rw [map_fst_slots]
    exact nodup_fieldNames
  . exact hmem

theorem filter_members_toDocument {frame : RunTurnFrame} (h : frame.extensions = []) :
    frame.toDocument.members.filter (fun member => !fieldNames.contains member.1) = [] := by
  rw [List.filter_eq_nil_iff]
  intro member hmem
  rw [toDocument_eq h] at hmem
  have hslot := Document.mem_present.mp (Document.mem_members_object hmem)
  have hname : member.1 ∈ fieldNames := by
    rw [← frame.map_fst_slots]
    exact List.mem_map.mpr ⟨_, hslot, rfl⟩
  simpa using hname

theorem ofDocument_toDocument {frame : RunTurnFrame} (h : frame.extensions = []) :
    ofDocument frame.toDocument = .ok frame := by
  have hget := get?_toDocument h
  simp only [slots, List.forall_mem_cons, List.not_mem_nil, false_implies, implies_true,
    and_true] at hget
  unfold ofDocument
  rw [if_pos frame.isObject_toDocument, filter_members_toDocument h]
  simp only [hget, required, optional_asString, optional_asU64, asU64_ofFin, Except.ok_bind,
    asString_ofString]
  cases frame
  cases h
  rfl

end RunTurnFrame

end Protocol
