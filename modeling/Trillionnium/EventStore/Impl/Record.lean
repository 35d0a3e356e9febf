import Trillionnium.EventStore.Basic

namespace EventStore

open Json

structure Externals where
  float : FloatCodec
  sha256 : Bytes → Vector UInt8 32

def eventRecordSchema : String := "trillionnium.owner-open.event-record.v1"

def zeroSha256 : String := "0000000000000000000000000000000000000000000000000000000000000000"

def hexChar (n : Nat) : Char := Char.ofNat (hexDigit n).toNat

def hexByte (b : UInt8) : List Char := [hexChar (b.toNat / 16), hexChar (b.toNat % 16)]

def isSha256Byte (b : UInt8) : Bool := (48 ≤ b && b ≤ 57) || (97 ≤ b && b ≤ 102)

def requireSha256 (value label : String) : Except EventStoreError Unit :=
  if (utf8 value).length ≠ 64 ∨ (utf8 value).all isSha256Byte = false then
    .error (.invalidRecord s!"{label} must be a lowercase SHA-256")
  else
    .ok ()

def isIdByte (b : UInt8) : Bool :=
  (48 ≤ b && b ≤ 57) || (65 ≤ b && b ≤ 90) || (97 ≤ b && b ≤ 122)
    || b == 45 || b == 95 || b == 46 || b == 58

def validateId (label value : String) (maximum : Nat) : Except EventStoreError Unit :=
  if utf8 value = [] ∨ (utf8 value).length > maximum ∨ (utf8 value).all isIdByte = false then
    .error (.invalidRecord s!"{label} is empty, oversized or malformed")
  else
    .ok ()

def isControl (c : Char) : Bool := c.toNat < 32 || (127 ≤ c.toNat && c.toNat < 160)

def validateText (label value : String) (maximum : Nat) : Except EventStoreError Unit :=
  if utf8 value = [] ∨ (utf8 value).length > maximum
      ∨ (utf8 value).contains 0 = true ∨ value.toList.any isControl = true then
    .error (.invalidRecord s!"{label} is empty, oversized or malformed")
  else
    .ok ()

def validateScope (scope : TurnScope) (limits : EventStoreLimits) : Except EventStoreError Unit := do
  validateId "session_id" scope.sessionId limits.maxIdBytes
  validateId "profile_id" scope.profileId limits.maxIdBytes
  validateId "task_id" scope.taskId limits.maxIdBytes
  validateId "turn_id" scope.turnId limits.maxIdBytes
  validateId "turn_stream_id" scope.turnStreamId limits.maxIdBytes

def requireObject (payload : Document) : Except EventStoreError Unit :=
  if payload.value.isObject then
    .ok ()
  else
    .error (.invalidRecord "event payload must be a JSON object")

def validateEventInput (input : EventInput) (limits : EventStoreLimits) :
    Except EventStoreError Unit := do
  validateScope input.scope limits
  validateId "event_id" input.eventId limits.maxIdBytes
  validateText "kind" input.kind limits.maxKindBytes
  requireObject input.payload

def TurnScope.toValue (scope : TurnScope) : Value :=
  .object [
    ("session_id", .string scope.sessionId),
    ("profile_id", .string scope.profileId),
    ("task_id", .string scope.taskId),
    ("turn_id", .string scope.turnId),
    ("turn_stream_id", .string scope.turnStreamId)]

def TurnScope.fieldNames : List String :=
  ["session_id", "profile_id", "task_id", "turn_id", "turn_stream_id"]

def TurnScope.ofDocument (d : Document) : Except Error TurnScope := do
  match ← d.fieldsOf fieldNames with
  | [sessionId, profileId, taskId, turnId, turnStreamId] =>
    return {
      sessionId := ← sessionId.asString
      profileId := ← profileId.asString
      taskId := ← taskId.asString
      turnId := ← turnId.asString
      turnStreamId := ← turnStreamId.asString
    }
  | _ => .error (.invalidType "a struct")

namespace EventRecord

def preimageFields (record : EventRecord) : List (String × Value) :=
  [
    ("schema", .string record.schema),
    ("store_seq", .number (.posInt record.storeSeq)),
    ("turn_seq", .number (.posInt record.turnSeq)),
    ("scope", record.scope.toValue),
    ("event_id", .string record.eventId),
    ("kind", .string record.kind),
    ("payload", record.payload.value),
    ("payload_sha256", .string record.payloadSha256),
    ("previous_record_sha256", .string record.previousRecordSha256)]

def toValue (record : EventRecord) : Value :=
  .object (record.preimageFields ++ [("record_sha256", .string record.recordSha256)])

def fieldNames : List String :=
  ["schema", "store_seq", "turn_seq", "scope", "event_id", "kind", "payload", "payload_sha256",
    "previous_record_sha256", "record_sha256"]

def ofDocument (d : Document) : Except Error EventRecord := do
  match ← d.fieldsOf fieldNames with
  | [schema, storeSeq, turnSeq, scope, eventId, kind, payload, payloadSha256, previousRecordSha256,
      recordSha256] =>
    return {
      schema := ← schema.asString
      storeSeq := ← storeSeq.asNat
      turnSeq := ← turnSeq.asNat
      scope := ← TurnScope.ofDocument scope
      eventId := ← eventId.asString
      kind := ← kind.asString
      payload := payload
      payloadSha256 := ← payloadSha256.asString
      previousRecordSha256 := ← previousRecordSha256.asString
      recordSha256 := ← recordSha256.asString
    }
  | _ => .error (.invalidType "a struct")

end EventRecord

variable (ext : Externals)

def sha256Hex (value : Bytes) : String := String.ofList ((ext.sha256 value).toList.flatMap hexByte)

def payloadDigest (payload : Document) : String := sha256Hex ext (write ext.float payload.value)

def recordDigest (record : EventRecord) : String :=
  sha256Hex ext (write ext.float (.object { record with schema := eventRecordSchema }.preimageFields))

def encodeRecord (record : EventRecord) : Bytes := write ext.float record.toValue

def decodeRecord (line : Bytes) : Except Error EventRecord :=
  decode ext.float EventRecord.ofDocument line

def validateRecord (record : EventRecord) (limits : EventStoreLimits) :
    Except EventStoreError Unit := do
  if record.schema ≠ eventRecordSchema then
    .error (.invalidRecord "event record schema does not match")
  else
    validateScope record.scope limits
    validateId "event_id" record.eventId limits.maxIdBytes
    validateText "kind" record.kind limits.maxKindBytes
    requireObject record.payload
    requireSha256 record.payloadSha256 "payload_sha256"
    requireSha256 record.previousRecordSha256 "previous_record_sha256"
    requireSha256 record.recordSha256 "record_sha256"
    if payloadDigest ext record.payload ≠ record.payloadSha256 then
      .error (.invalidRecord "payload digest does not match")
    else if recordDigest ext record ≠ record.recordSha256 then
      .error (.invalidRecord "record digest does not match")
    else
      .ok ()

end EventStore
