import Trillionnium.EventStore.Impl.Record
import Trillionnium.Json.Lemmas.Line
import Trillionnium.Json.Lemmas.Size

/-!
Digests have the form that records require, and the line of a record is decoded to the record as
long as its payload is not nested too deep.
-/

namespace EventStore

open Json EventRecord

section Digest

theorem utf8EncodeChar_hexChar : ∀ n < 16, String.utf8EncodeChar (hexChar n) = [hexDigit n] := by
  decide

theorem isSha256Byte_hexDigit : ∀ n < 16, isSha256Byte (hexDigit n) = true := by
  decide

variable (ext : Externals)

theorem utf8_sha256Hex :
    utf8 (sha256Hex ext value)
      =
    (ext.sha256 value).toList.flatMap (fun b => [hexDigit (b.toNat / 16), hexDigit (b.toNat % 16)]) := by
  unfold sha256Hex
  rw [utf8_ofList, List.flatMap_assoc]
  congr 1
  funext b
  have hb := b.toNat_lt
  unfold hexByte
  simp only [List.flatMap_cons, List.flatMap_nil]
  rw [utf8EncodeChar_hexChar _ (by omega), utf8EncodeChar_hexChar _ (by omega)]
  rfl

def IsSha256 (value : String) : Prop := ∀ label, requireSha256 value label = .ok ()

theorem isSha256_sha256Hex (value : Bytes) : IsSha256 (sha256Hex ext value) := by
  intro label
  unfold requireSha256
  rw [if_neg]
  rw [utf8_sha256Hex]
  simp only [not_or, not_not, Bool.not_eq_false]
  constructor
  . simp [List.length_flatMap]
  . rw [List.all_flatMap, List.all_eq_true]
    intro b _
    have hb := b.toNat_lt
    simp only [List.all_cons, List.all_nil, Bool.and_true]
    rw [isSha256Byte_hexDigit _ (by omega), isSha256Byte_hexDigit _ (by omega)]
    rfl

theorem isSha256_zeroSha256 : IsSha256 zeroSha256 := by
  intro label
  unfold requireSha256
  rw [if_neg (by decide)]

end Digest

section Codec

variable {codec : FloatCodec}

theorem TurnScope.readsAs (scope : TurnScope) :
    ∃ d, ReadsAs codec scope.toValue d ∧ TurnScope.ofDocument d = .ok scope := by
  obtain ⟨d, hread, hfields⟩ := @readsAs_struct codec fieldNames
    [.string scope.sessionId, .string scope.profileId, .string scope.taskId,
      .string scope.turnId, .string scope.turnStreamId]
    [.ofString scope.sessionId, .ofString scope.profileId, .ofString scope.taskId,
      .ofString scope.turnId, .ofString scope.turnStreamId]
    (by decide) rfl
    (.cons readsAs_string (.cons readsAs_string (.cons readsAs_string
      (.cons readsAs_string (.cons readsAs_string .nil)))))
  refine ⟨d, hread, ?_⟩
  unfold TurnScope.ofDocument
  rw [hfields]
  rfl

theorem EventRecord.readsAs (record : EventRecord) (hstore : record.storeSeq < 2 ^ 64)
    (hturn : record.turnSeq < 2 ^ 64) (hfloats : FloatsReadBack codec record.payload.value) :
    ∃ d, ReadsAs codec record.toValue d ∧ ofDocument d = .ok record := by
  obtain ⟨scope, hscope, hofScope⟩ := @TurnScope.readsAs codec record.scope
  obtain ⟨d, hread, hfields⟩ := @readsAs_struct codec fieldNames
    [.string record.schema, .number (.posInt record.storeSeq),
      .number (.posInt record.turnSeq), record.scope.toValue, .string record.eventId,
      .string record.kind, record.payload.value, .string record.payloadSha256,
      .string record.previousRecordSha256, .string record.recordSha256]
    [.ofString record.schema, .ofNat record.storeSeq hstore, .ofNat record.turnSeq hturn,
      scope, .ofString record.eventId, .ofString record.kind, record.payload,
      .ofString record.payloadSha256, .ofString record.previousRecordSha256,
      .ofString record.recordSha256]
    (by decide) rfl
    (.cons readsAs_string (.cons (readsAs_nat _) (.cons (readsAs_nat _) (.cons hscope
      (.cons readsAs_string (.cons readsAs_string (.cons (readsAs_document _ hfloats)
        (.cons readsAs_string (.cons readsAs_string (.cons readsAs_string .nil))))))))))
  refine ⟨d, hread, ?_⟩
  unfold ofDocument
  rw [hfields]
  simp only [Except.ok_bind, hofScope]
  rfl

theorem TurnScope.depth_toValue (scope : TurnScope) : scope.toValue.depth = 1 := by
  simp [TurnScope.toValue, Value.depth, Value.depthFields]

theorem EventRecord.depth_toValue (record : EventRecord) :
    record.toValue.depth = max 1 record.payload.value.depth + 1 := by
  simp [toValue, preimageFields, Value.depth, Value.depthFields,
    TurnScope.depth_toValue]

end Codec

variable (ext : Externals)

def maxPayloadDepth : Nat := recursionLimit - 2

theorem decodeRecord_encodeRecord (record : EventRecord) (hstore : record.storeSeq < 2 ^ 64)
    (hturn : record.turnSeq < 2 ^ 64) (hfloats : FloatsReadBack ext.float record.payload.value)
    (hdepth : record.payload.value.depth ≤ maxPayloadDepth) :
    decodeRecord ext (encodeRecord ext record) = .ok record := by
  obtain ⟨d, hread, hof⟩ := readsAs record hstore hturn hfloats
  have hlimit : record.toValue.depth < recursionLimit := by
    have : maxPayloadDepth = 126 := rfl
    have : recursionLimit = 128 := rfl
    rw [depth_toValue]
    omega
  have hdecode := decode_write ofDocument [] rfl hlimit hread
  rw [List.append_nil] at hdecode
  unfold decodeRecord encodeRecord
  rw [hdecode, hof]

theorem decodeRecord_of_too_deep (record : EventRecord)
    (hdepth : maxPayloadDepth < record.payload.value.depth) :
    ∃ e, decodeRecord ext (encodeRecord ext record) = .error e := by
  have hlimit : recursionLimit ≤ record.toValue.depth := by
    have : maxPayloadDepth = 126 := rfl
    have : recursionLimit = 128 := rfl
    rw [depth_toValue]
    omega
  have hdecode := decode_write_of_too_deep ext.float ofDocument [] rfl
    hlimit
  rw [List.append_nil] at hdecode
  change (decodeRecord ext (encodeRecord ext record)).toOption = none at hdecode
  cases hresult : decodeRecord ext (encodeRecord ext record) with
  | error e => exact ⟨e, rfl⟩
  | ok r =>
    rw [hresult] at hdecode
    cases hdecode

structure ValidRecord (record : EventRecord) (limits : EventStoreLimits) : Prop where
  schema : record.schema = eventRecordSchema
  scope : validateScope record.scope limits = .ok ()
  eventId : validateId "event_id" record.eventId limits.maxIdBytes = .ok ()
  kind : validateText "kind" record.kind limits.maxKindBytes = .ok ()
  payload : requireObject record.payload = .ok ()
  payloadSha256 : requireSha256 record.payloadSha256 "payload_sha256" = .ok ()
  previousRecordSha256 : requireSha256 record.previousRecordSha256 "previous_record_sha256" = .ok ()
  recordSha256 : requireSha256 record.recordSha256 "record_sha256" = .ok ()
  payloadDigest : payloadDigest ext record.payload = record.payloadSha256
  recordDigest : recordDigest ext record = record.recordSha256

theorem validateRecord_eq_ok {record : EventRecord} {limits : EventStoreLimits} :
    validateRecord ext record limits = .ok () ↔ ValidRecord ext record limits := by
  constructor
  . intro h
    unfold validateRecord at h
    by_cases hschema : record.schema ≠ eventRecordSchema
    . rw [if_pos hschema] at h
      cases h
    . rw [if_neg hschema] at h
      simp only [Except.bind_eq_ok] at h
      obtain ⟨_, h1, _, h2, _, h3, _, h4, _, h5, _, h6, _, h7, h⟩ := h
      split_ifs at h with hpayload hrecord
      rw [not_not] at hschema hpayload hrecord
      exact ⟨hschema, h1, h2, h3, h4, h5, h6, h7, hpayload, hrecord⟩
  . intro h
    unfold validateRecord
    rw [if_neg (not_not.mpr h.schema), h.scope, h.eventId, h.kind, h.payload, h.payloadSha256,
      h.previousRecordSha256, h.recordSha256, if_neg (not_not.mpr h.payloadDigest),
      if_neg (not_not.mpr h.recordDigest)]
    rfl

theorem length_of_requireSha256 {label : String} (h : requireSha256 value label = .ok ()) :
    (utf8 value).length = 64 := by
  unfold requireSha256 at h
  split_ifs at h with hvalue
  simp only [not_or, not_not] at hvalue
  exact hvalue.1

theorem length_of_validateId {label : String} (h : validateId label value maximum = .ok ()) :
    (utf8 value).length ≤ maximum := by
  unfold validateId at h
  split_ifs at h with hvalue
  simp only [not_or, not_lt] at hvalue
  exact hvalue.2.1

theorem length_of_validateText {label : String} (h : validateText label value maximum = .ok ()) :
    (utf8 value).length ≤ maximum := by
  unfold validateText at h
  split_ifs at h with hvalue
  simp only [not_or, not_lt] at hvalue
  exact hvalue.2.1

theorem length_scope_le {codec : FloatCodec} {scope : TurnScope} {limits : EventStoreLimits}
    (h : validateScope scope limits = .ok ()) :
    (write codec scope.toValue).length ≤ 30 * limits.maxIdBytes + 182 := by
  unfold validateScope at h
  simp only [Except.bind_eq_ok] at h
  obtain ⟨_, h1, _, h2, _, h3, _, h4, h5⟩ := h
  have l1 := length_of_validateId h1
  have l2 := length_of_validateId h2
  have l3 := length_of_validateId h3
  have l4 := length_of_validateId h4
  have l5 := length_of_validateId h5
  have w1 := (length_writeString scope.sessionId).2
  have w2 := (length_writeString scope.profileId).2
  have w3 := (length_writeString scope.taskId).2
  have w4 := (length_writeString scope.turnId).2
  have w5 := (length_writeString scope.turnStreamId).2
  apply Nat.le_trans (length_write_record_le codec rfl)
  simp only [List.map_cons, List.map_nil, List.sum_cons, List.sum_nil, write_string]
  omega

theorem ValidRecord.length_encodeRecord_le {record : EventRecord} {limits : EventStoreLimits}
    (h : ValidRecord ext record limits) (hstore : record.storeSeq < 2 ^ 64)
    (hturn : record.turnSeq < 2 ^ 64) :
    (encodeRecord ext record).length
      ≤ (write ext.float record.payload.value).length + 36 * limits.maxIdBytes
        + 6 * limits.maxKindBytes + 2000 := by
  have l1 := @length_scope_le ext.float _ _ h.scope
  have l2 := length_of_validateId h.eventId
  have l3 := length_of_validateText h.kind
  have l4 := length_of_requireSha256 h.payloadSha256
  have l5 := length_of_requireSha256 h.previousRecordSha256
  have l6 := length_of_requireSha256 h.recordSha256
  have w1 := (length_writeString record.eventId).2
  have w2 := (length_writeString record.kind).2
  have w3 := (length_writeString record.payloadSha256).2
  have w4 := (length_writeString record.previousRecordSha256).2
  have w5 := (length_writeString record.recordSha256).2
  have w6 := length_write_nat ext.float hstore
  have w7 := length_write_nat ext.float hturn
  have w8 : (writeString record.schema).length = 41 := by
    rw [h.schema]
    decide
  apply Nat.le_trans (length_write_record_le ext.float rfl)
  simp only [preimageFields, List.cons_append, List.nil_append, List.map_cons,
    List.map_nil, List.sum_cons, List.sum_nil, write_string]
  omega

theorem encodeRecord_ne_nil (record : EventRecord) : encodeRecord ext record ≠ [] :=
  write_ne_nil ext.float

theorem lineFeed_not_mem_encodeRecord (record : EventRecord) : 10 ∉ encodeRecord ext record :=
  lineFeed_not_mem_write ext.float record.toValue

end EventStore
