import Trillionnium.Data.Sha256
import Trillionnium.EventStore.EventLog
import Trillionnium.JobRuntime.Basic
import Trillionnium.Json.Object

/-!
The envelopes of the job journal, their JSON form and the identities under which the event store keeps
them.
-/

namespace JobRuntime

open EventStore Json JobRegistry

def jobJournalSchema : String := "trillionnium.owner-open.job-journal.v1"

structure JournalEnvelope where
  schema : String
  record : String
  jobId : String
  request : JobRequest
  operationId : Option String
  operationKind : Option String
  operationSha256 : Option String
  eventSeq : Option (Fin (2 ^ 64))
  payload : Document

def optionalString : Option String → Value
  | some s => .string s
  | none => .null

def optionalField (name : String) (value : Option Value) : List (String × Value) :=
  match value with
  | some v => [(name, v)]
  | none => []

def optionalFieldsOf (names : List String) (d : Document) : Except Error (List (Option Document)) :=
  match d.value with
  | .object fields =>
    match fields.find? (fun f => !names.contains f.1) with
    | some f => .error (.unknownField f.1)
    | none => .ok (names.map d.get?)
  | .array xs =>
    if xs.length = names.length then
      .ok (d.elements.map some)
    else
      .error (.invalidType "a struct")
  | _ => .error (.invalidType "a struct")

def requestValue (request : JobRequest) : Value :=
  .object [
    ("binding_fingerprint", .string request.bindingFingerprint),
    ("mode", .string request.mode),
    ("request_sha256", .string request.requestSha256),
    ("target_id", optionalString request.targetId),
    ("tool", .string request.tool)]

def requestFieldNames : List String :=
  ["request_sha256", "binding_fingerprint", "tool", "mode", "target_id"]

def requestOfDocument (d : Document) : Except Error JobRequest := do
  match ← optionalFieldsOf requestFieldNames d with
  | [requestSha256, bindingFingerprint, tool, mode, targetId] =>
    return {
      requestSha256 := ← (← required "request_sha256" requestSha256).asString
      bindingFingerprint := ← (← required "binding_fingerprint" bindingFingerprint).asString
      tool := ← (← required "tool" tool).asString
      mode := ← (← required "mode" mode).asString
      targetId := ← optional Document.asString targetId
    }
  | _ => .error (.invalidType "a struct")

namespace JournalEnvelope

def fields (envelope : JournalEnvelope) : List (String × Value) :=
  optionalField "event_seq" (envelope.eventSeq.map fun n => .number (.posInt n.val))
    ++ [("job_id", .string envelope.jobId)]
    ++ optionalField "operation_id" (envelope.operationId.map .string)
    ++ optionalField "operation_kind" (envelope.operationKind.map .string)
    ++ optionalField "operation_sha256" (envelope.operationSha256.map .string)
    ++ [("payload", envelope.payload.value), ("record", .string envelope.record),
      ("request", requestValue envelope.request), ("schema", .string envelope.schema)]

def memberNames : List String :=
  ["event_seq", "job_id", "operation_id", "operation_kind", "operation_sha256", "payload", "record",
    "request", "schema"]

theorem map_fst_fields_sublist (envelope : JournalEnvelope) :
    (envelope.fields.map Prod.fst).Sublist memberNames := by
  have hoptional : ∀ name value, ((optionalField name value).map Prod.fst).Sublist [name] := by
    intro name value
    cases value with
    | none => apply List.nil_sublist
    | some v => apply List.Sublist.refl
  unfold fields memberNames
  simp only [List.map_append]
  exact (((((hoptional "event_seq" _).append (.refl ["job_id"])).append
    (hoptional "operation_id" _)).append (hoptional "operation_kind" _)).append
    (hoptional "operation_sha256" _)).append (.refl _)

theorem canonical_fields (envelope : JournalEnvelope) :
    (Value.object envelope.fields).canonical = true := by
  have hrequest : (requestValue envelope.request).canonical = true := by
    unfold requestValue
    cases envelope.request.targetId with
    | none => rfl
    | some id => rfl
  rw [Value.canonical, Bool.and_eq_true, sortedKeys_iff_pairwise, canonicalFields_iff]
  constructor
  . apply List.Pairwise.sublist envelope.map_fst_fields_sublist
    decide
  . intro f hf
    have hstrings : ∀ name (value : Option String), f ∈ optionalField name (value.map .string)
        → f.2.canonical = true := by
      intro name value hmem
      cases value with
      | none => cases hmem
      | some s =>
        rw [List.mem_singleton.mp hmem]
        rfl
    simp only [fields, List.mem_append, List.mem_cons, List.not_mem_nil, or_false] at hf
    rcases hf with ((((hf | rfl) | hf) | hf) | hf) | rfl | rfl | rfl | rfl
    . cases hseq : envelope.eventSeq with
      | none =>
        rw [hseq] at hf
        cases hf
      | some n =>
        rw [hseq] at hf
        rw [List.mem_singleton.mp hf]
        simp [Value.canonical, Number.canonical]
    . rfl
    . exact hstrings _ _ hf
    . exact hstrings _ _ hf
    . exact hstrings _ _ hf
    . exact envelope.payload.canonical
    . rfl
    . exact hrequest
    . rfl

def toDocument (envelope : JournalEnvelope) : Document :=
  ⟨.object envelope.fields, envelope.canonical_fields⟩

def fieldNames : List String :=
  ["schema", "record", "job_id", "request", "operation_id", "operation_kind", "operation_sha256",
    "event_seq", "payload"]

def ofDocument (d : Document) : Except Error JournalEnvelope := do
  match ← optionalFieldsOf fieldNames d with
  | [schema, record, jobId, request, operationId, operationKind, operationSha256, eventSeq,
      payload] =>
    return {
      schema := ← (← required "schema" schema).asString
      record := ← (← required "record" record).asString
      jobId := ← (← required "job_id" jobId).asString
      request := ← requestOfDocument (← required "request" request)
      operationId := ← optional Document.asString operationId
      operationKind := ← optional Document.asString operationKind
      operationSha256 := ← optional Document.asString operationSha256
      eventSeq := ← optional asU64 eventSeq
      payload := ← required "payload" payload
    }
  | _ => .error (.invalidType "a struct")

end JournalEnvelope

def turnScope (key : JobKey) : TurnScope where
  sessionId := key.scope.sessionId
  profileId := key.scope.profileId
  taskId := key.scope.taskId
  turnId := key.scope.turnId
  turnStreamId := key.scope.turnStreamId

def jobKeyOf (scope : TurnScope) (jobId : String) : JobKey where
  scope := ⟨scope.sessionId, scope.profileId, scope.taskId, scope.turnId, scope.turnStreamId⟩
  jobId := jobId

def scopeValue (scope : JobScope) : Value :=
  .object [
    ("profile_id", .string scope.profileId),
    ("session_id", .string scope.sessionId),
    ("task_id", .string scope.taskId),
    ("turn_id", .string scope.turnId),
    ("turn_stream_id", .string scope.turnStreamId)]

def eventId (codec : FloatCodec) (pre : String) (key : JobKey) (discriminator : String) : String :=
  let encoded := write codec (.object [
    ("discriminator", .string discriminator),
    ("job_id", .string key.jobId),
    ("prefix", .string pre),
    ("schema", .string jobJournalSchema),
    ("scope", scopeValue key.scope)])
  s!"job-{pre}-{Sha256.hex encoded}"

end JobRuntime
