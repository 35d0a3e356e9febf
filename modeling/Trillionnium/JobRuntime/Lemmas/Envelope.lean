import Trillionnium.JobRuntime.Impl.Envelope
import Trillionnium.Json.Lemmas.Beq

/-!
An envelope is read back from its JSON form, and from every document that the event store takes for
the same one.
-/

namespace JobRuntime

open EventStore Json JobRegistry Value

theorem canonical_requestValue {request : JobRequest} :
    (requestValue request).canonical = true := by
  unfold requestValue
  cases request.targetId with
  | none | some _ => rfl

theorem rigid_requestValue (request : JobRequest) : (requestValue request).Rigid := by
  have htarget : (optionalString request.targetId).Rigid := by
    cases request.targetId with
    | none => apply rigid_null
    | some id => apply rigid_string
  apply rigid_object
  intro f hf
  simp only [List.mem_cons, List.not_mem_nil, or_false] at hf
  rcases hf with rfl | rfl | rfl | rfl | rfl
  . apply rigid_string
  . apply rigid_string
  . apply rigid_string
  . exact htarget
  . apply rigid_string

theorem requestOfDocument_requestValue (request : JobRequest) :
    requestOfDocument ⟨requestValue request, canonical_requestValue⟩ = .ok request := by
  obtain ⟨sha, fingerprint, tool, mode, target⟩ := request
  cases target with
  | none | some _ => rfl

namespace JournalEnvelope

section

set_option maxRecDepth 10000

theorem optionalFieldsOf_toDocument (envelope : JournalEnvelope) :
    optionalFieldsOf fieldNames envelope.toDocument
      =
    .ok [some (.ofString envelope.schema), some (.ofString envelope.record),
      some (.ofString envelope.jobId),
      some ⟨requestValue envelope.request, canonical_requestValue⟩,
      envelope.operationId.map .ofString, envelope.operationKind.map .ofString,
      envelope.operationSha256.map .ofString, envelope.eventSeq.map Document.ofFin,
      some envelope.payload] := by
  obtain ⟨schema, record, jobId, request, operationId, operationKind, operationSha256, eventSeq,
    payload⟩ := envelope
  cases operationId <;> cases operationKind <;> cases operationSha256 <;> cases eventSeq <;> rfl

end

theorem ofDocument_toDocument (envelope : JournalEnvelope) :
    ofDocument envelope.toDocument = .ok envelope := by
  unfold ofDocument
  rw [optionalFieldsOf_toDocument]
  simp only [Except.ok_bind, required, optional_asString, optional_asU64,
    requestOfDocument_requestValue]
  rfl

def front (envelope : JournalEnvelope) : List (String × Value) :=
  optionalField "event_seq" (envelope.eventSeq.map fun n => .number (.posInt n.val))
    ++ [("job_id", .string envelope.jobId)]
    ++ optionalField "operation_id" (envelope.operationId.map .string)
    ++ optionalField "operation_kind" (envelope.operationKind.map .string)
    ++ optionalField "operation_sha256" (envelope.operationSha256.map .string)

def back (envelope : JournalEnvelope) : List (String × Value) :=
  [("record", .string envelope.record), ("request", requestValue envelope.request),
    ("schema", .string envelope.schema)]

theorem fields_eq (envelope : JournalEnvelope) :
    envelope.fields = envelope.front ++ ("payload", envelope.payload.value) :: envelope.back := rfl

theorem rigid_front (envelope : JournalEnvelope) : ∀ f ∈ envelope.front, f.2.Rigid := by
  have hstrings : ∀ name (value : Option String), ∀ f ∈ optionalField name (value.map .string),
      f.2.Rigid := by
    intro name value f hf
    cases value with
    | none => cases hf
    | some s =>
      rw [List.mem_singleton.mp hf]
      apply rigid_string
  intro f hf
  simp only [front, List.mem_append, List.mem_singleton] at hf
  rcases hf with (((hf | rfl) | hf) | hf) | hf
  . cases hseq : envelope.eventSeq with
    | none =>
      rw [hseq] at hf
      cases hf
    | some n =>
      rw [hseq] at hf
      rw [List.mem_singleton.mp hf]
      apply rigid_nat
  . apply rigid_string
  . exact hstrings _ _ f hf
  . exact hstrings _ _ f hf
  . exact hstrings _ _ f hf

theorem rigid_back (envelope : JournalEnvelope) : ∀ f ∈ envelope.back, f.2.Rigid := by
  intro f hf
  simp only [back, List.mem_cons, List.not_mem_nil, or_false] at hf
  rcases hf with rfl | rfl | rfl
  . apply rigid_string
  . apply rigid_requestValue
  . apply rigid_string

theorem eq_toDocument_of_beq {d : Document} {envelope : JournalEnvelope}
    (h : (d == envelope.toDocument) = true) :
    ∃ payload, d = { envelope with payload := payload }.toDocument := by
  obtain ⟨v, hcanonical⟩ := d
  cases v with
  | object fields =>
    have hbeq : beqFields fields envelope.fields = true := h
    rw [fields_eq] at hbeq
    obtain ⟨front', back', rfl, hfront, hback⟩ := beqFields_append hbeq
    cases back' with
    | nil => simp [beqFields] at hback
    | cons f back' =>
      obtain ⟨name, p⟩ := f
      simp only [beqFields, Bool.and_eq_true, beq_iff_eq] at hback
      obtain ⟨⟨rfl, _⟩, hback⟩ := hback
      have hp : p.canonical = true := by
        rw [canonical, Bool.and_eq_true, canonicalFields_iff] at hcanonical
        exact hcanonical.2 ("payload", p) (by simp)
      refine ⟨⟨p, hp⟩, ?_⟩
      apply Document.ext
      change object _ = object _
      rw [eq_of_beqFields envelope.rigid_front hfront,
        eq_of_beqFields envelope.rigid_back hback]
      rfl
  | _ => exact absurd h (by simp [toDocument, BEq.beq, Document.beq, beq])

end JournalEnvelope

end JobRuntime
