import Trillionnium.Data.List
import Trillionnium.EventStore.Impl.Durable
import Trillionnium.EventStore.Lemmas.Record

/-!
Both writers extend their indexes in the same way. `Logged` describes the indexes that can come
about like that; what a scan of the log makes of them and the order of the records follow from it.
-/

namespace EventStore

open Json

variable {state : Recovered} {record : EventRecord} {before after : List EventRecord}

theorem checkedAdd_eq_some : checkedAdd a b = some c ↔ c = a + b ∧ a + b < 2 ^ 64 := by
  unfold checkedAdd
  split_ifs with h
  . simp only [Option.some.injEq]
    omega
  . simp only [false_iff]
    omega

variable (ext : Externals) (limits : EventStoreLimits)

structure Recovered.Extends (state : Recovered) (record : EventRecord) (consumed : Nat) : Prop where
  storeSeq_eq : record.storeSeq = state.records.length
  turnSeq_eq : record.turnSeq = HashMap.getD state.nextTurnSeq record.scope 0
  previous_eq : record.previousRecordSha256 = state.lastRecordSha256
  key_fresh : state.byKey.lookup record.key = none
  records_lt : state.records.length < limits.maxRecords
  turnSeq_lt : record.turnSeq + 1 < 2 ^ 64
  valid : validateRecord ext record limits = .ok ()
  total_lt : state.byteCount + consumed < 2 ^ 64
  total_le : state.byteCount + consumed ≤ limits.maxStoreBytes

inductive Replayed : Recovered → Prop where
  | empty : Replayed Recovered.empty
  | publish {state : Recovered} {record : EventRecord} {consumed : Nat} (h : Replayed state)
      (hr : state.Extends ext limits record consumed) :
    Replayed (state.publish record (record.turnSeq + 1) consumed)

structure Recovered.Admits (state : Recovered) (r : Reserved) : Prop
    extends state.Extends ext limits r.record r.encoded.length where
  encoded_eq : r.encoded = Log.frame (encodeRecord ext r.record)
  nextTurnSeq_eq : r.nextTurnSeq = r.record.turnSeq + 1
  length_le : (encodeRecord ext r.record).length ≤ limits.maxRecordBytes

def Recovered.publishReserved (state : Recovered) (r : Reserved) : Recovered :=
  state.publish r.record r.nextTurnSeq r.encoded.length

inductive Logged : Recovered → Prop where
  | empty : Logged Recovered.empty
  | publish {state : Recovered} {r : Reserved} (h : Logged state) (hr : state.Admits ext limits r) :
    Logged (state.publishReserved r)

variable {ext limits}

theorem Logged.replayed (h : Logged ext limits state) : Replayed ext limits state := by
  induction h with
  | empty => exact .empty
  | publish _ hr ih =>
    unfold Recovered.publishReserved
    rw [hr.nextTurnSeq_eq]
    exact ih.publish hr.toExtends

theorem Recovered.reserve_eq_reserved {input : EventInput}
    (h : state.reserve ext limits input = .ok (.reserved r)) :
    r.record = state.nextRecord ext input ∧ state.Admits ext limits r := by
  unfold Recovered.reserve at h
  split at h
  . split at h
    . cases h
    . split_ifs at h
      cases h
  . next hfresh =>
    split_ifs at h with hrecords
    split at h
    . cases h
    . next nextTurnSeq hnext =>
      rw [checkedAdd_eq_some] at hnext
      rw [Except.bind_eq_ok] at h
      obtain ⟨_, hvalid, h⟩ := h
      dsimp only at h
      split_ifs at h with hencoded
      split at h
      . cases h
      . next total htotal =>
        rw [checkedAdd_eq_some] at htotal
        split_ifs at h with hstore
        cases h
        simp only [not_or, not_lt] at hencoded
        have hextends : state.Extends ext limits (state.nextRecord ext input)
            (Log.frame (encodeRecord ext (state.nextRecord ext input))).length := {
          storeSeq_eq := rfl
          turnSeq_eq := rfl
          previous_eq := rfl
          key_fresh := hfresh
          records_lt := by omega
          turnSeq_lt := hnext.2
          valid := hvalid
          total_lt := htotal.2
          total_le := by omega
        }
        exact ⟨rfl, hextends, rfl, hnext.1, hencoded.2⟩

theorem Recovered.validateRecord_nextRecord {state : Recovered} {input : EventInput}
    (hinput : validateEventInput input limits = .ok ()) (hlast : IsSha256 state.lastRecordSha256) :
    validateRecord ext (state.nextRecord ext input) limits = .ok () := by
  unfold validateEventInput at hinput
  simp only [Except.bind_eq_ok] at hinput
  obtain ⟨_, hscope, _, hid, _, hkind, hpayload⟩ := hinput
  rw [validateRecord_eq_ok]
  exact {
    schema := rfl
    scope := hscope
    eventId := hid
    kind := hkind
    payload := hpayload
    payloadSha256 := isSha256_sha256Hex ext _ _
    previousRecordSha256 := hlast _
    recordSha256 := isSha256_sha256Hex ext _ _
    payloadDigest := rfl
    recordDigest := rfl
  }

theorem Recovered.reserve_eq_ok {state : Recovered} {input : EventInput}
    (hinput : validateEventInput input limits = .ok ()) (hlast : IsSha256 state.lastRecordSha256)
    (hfresh : state.byKey.lookup ⟨input.scope, input.eventId⟩ = none)
    (hrecords : state.records.length < limits.maxRecords)
    (hturn : HashMap.getD state.nextTurnSeq input.scope 0 + 1 < 2 ^ 64)
    (hlength : (encodeRecord ext (state.nextRecord ext input)).length ≤ limits.maxRecordBytes)
    (htotal : state.byteCount + ((encodeRecord ext (state.nextRecord ext input)).length + 1) < 2 ^ 64)
    (hstore : state.byteCount + ((encodeRecord ext (state.nextRecord ext input)).length + 1)
      ≤ limits.maxStoreBytes) :
    ∃ r, state.reserve ext limits input = .ok (.reserved r) := by
  unfold Recovered.reserve
  rw [hfresh]
  simp only
  rw [if_neg (by omega), checkedAdd_eq_some.mpr ⟨rfl, hturn⟩]
  simp only
  rw [validateRecord_nextRecord hinput hlast, Except.ok_bind,
    if_neg (by simp [encodeRecord_ne_nil, hlength]), Log.length_frame,
    checkedAdd_eq_some.mpr ⟨rfl, htotal⟩]
  simp only
  rw [if_pos hstore]
  exact ⟨_, rfl⟩

def Readable (ext : Externals) (record : EventRecord) : Prop :=
  decodeRecord ext (encodeRecord ext record) = .ok record

theorem Recovered.Admits.replayLine (hr : state.Admits ext limits r) (hread : Readable ext r.record)
    (message : String) :
    state.replayLine ext limits message false (encodeRecord ext r.record) r.encoded.length
      =
    .ok (r.record, state.publishReserved r) := by
  have htotal := checkedAdd_eq_some.mpr ⟨rfl, hr.total_lt⟩
  have hnext := checkedAdd_eq_some.mpr ⟨rfl, hr.turnSeq_lt⟩
  have htotal_le := hr.total_le
  have hrecords := hr.records_lt
  unfold Recovered.replayLine
  rw [htotal]
  simp only
  rw [if_neg (by omega), if_neg (by simp; omega)]
  rw [hread]
  simp only [hr.valid, Except.ok_bind]
  rw [if_neg (by simp [hr.storeSeq_eq]), if_neg (by simp [hr.turnSeq_eq])]
  rw [if_neg (by simp [hr.previous_eq]), if_neg (by simp [hr.key_fresh])]
  rw [← hr.turnSeq_eq, hnext]
  simp only
  rw [← hr.nextTurnSeq_eq]
  rfl

theorem Recovered.replayLine_eq_error {state : Recovered} {record : EventRecord} {message : String}
    {full : Bool} {consumed : Nat} {e : Error} (h : decodeRecord ext (encodeRecord ext record) = .error e) :
    ∃ e, state.replayLine ext limits message full (encodeRecord ext record) consumed = .error e := by
  unfold Recovered.replayLine
  split
  . exact ⟨_, rfl⟩
  . split_ifs
    . exact ⟨_, rfl⟩
    . exact ⟨_, rfl⟩
    . rw [h]
      exact ⟨_, rfl⟩

section Accept

variable (ext limits)

def Recovered.accept (state : Recovered) (input : EventInput) :
    Except EventStoreError AppendResult × Recovered :=
  match validateEventInput input limits with
  | .error e => (.error e, state)
  | .ok () =>
    match state.reserve ext limits input with
    | .error e => (.error e, state)
    | .ok (.existing record) => (.ok { disposition := .existing, record := record }, state)
    | .ok (.reserved r) =>
      (.ok { disposition := .appended, record := r.record }, state.publishReserved r)

def Recovered.acceptAll (state : Recovered) (inputs : List EventInput) : Recovered :=
  inputs.foldl (fun state input => (state.accept ext limits input).2) state

end Accept

theorem Logged.accept (h : Logged ext limits state) (input : EventInput) :
    Logged ext limits (state.accept ext limits input).2 := by
  unfold Recovered.accept
  split
  . exact h
  . split
    . exact h
    . exact h
    . next r hr => exact h.publish (Recovered.reserve_eq_reserved hr).2

theorem Logged.acceptAll (h : Logged ext limits state) (inputs : List EventInput) :
    Logged ext limits (state.acceptAll ext limits inputs) := by
  induction inputs generalizing state with
  | nil => exact h
  | cons input inputs ih => exact ih (h.accept input)

theorem Recovered.mem_accept {input : EventInput}
    (h : record ∈ (state.accept ext limits input).2.records) :
    record ∈ state.records ∨ record = state.nextRecord ext input := by
  unfold Recovered.accept at h
  split at h
  . exact .inl h
  . split at h
    . exact .inl h
    . exact .inl h
    . next r hr =>
      cases List.mem_append.mp h with
      | inl h => exact .inl h
      | inr h =>
        rw [List.mem_singleton] at h
        rw [h, (Recovered.reserve_eq_reserved hr).1]
        exact .inr rfl

theorem Recovered.payload_of_mem_acceptAll
    (h : record ∈ (state.acceptAll ext limits inputs).records) :
    record ∈ state.records ∨ ∃ input ∈ inputs, record.payload = input.payload := by
  induction inputs generalizing state with
  | nil => exact .inl h
  | cons input inputs ih =>
    cases ih h with
    | inl hmem =>
      cases Recovered.mem_accept hmem with
      | inl hmem => exact .inl hmem
      | inr heq => exact .inr ⟨input, by simp, by rw [heq]; rfl⟩
    | inr hmem =>
      obtain ⟨other, hother, hpayload⟩ := hmem
      exact .inr ⟨other, by simp [hother], hpayload⟩

namespace Replayed

variable {state : Recovered}

section

variable (h : Replayed ext limits state)
include h

theorem lookup_byKey {key : EventKey} :
    state.byKey.lookup key = some index ↔ state.records[index]?.map (·.key) = some key := by
  induction h generalizing key index with
  | empty => simp [Recovered.empty]
  | @publish state record _ _ hr ih =>
    change (state.byKey.insert record.key state.records.length).lookup key = _
      ↔ (state.records ++ [record])[index]?.map (·.key) = some key
    by_cases hkey : key = record.key
    . rw [hkey, AList.lookup_insert]
      have hnot : ¬state.byKey.lookup record.key = some index := by
        rw [hr.key_fresh]
        simp
      rw [ih] at hnot
      rcases lt_trichotomy index state.records.length with hlt | heq | hgt
      . rw [List.getElem?_append_left hlt]
        simp only [Option.some.injEq, hnot, iff_false]
        omega
      . simp [heq]
      . rw [List.getElem?_append_right (by omega), List.getElem?_eq_none (by simp; omega)]
        simp only [Option.some.injEq, Option.map_none, reduceCtorEq, iff_false]
        omega
    . rw [AList.lookup_insert_ne hkey, ih]
      rcases lt_trichotomy index state.records.length with hlt | heq | hgt
      . rw [List.getElem?_append_left hlt]
      . rw [heq, List.getElem?_eq_none (Nat.le_refl _)]
        simp [Ne.symm hkey]
      . rw [List.getElem?_eq_none (by omega), List.getElem?_eq_none (by simp; omega)]

theorem key_mem_iff {key : EventKey} :
    state.byKey.lookup key = none ↔ ∀ record ∈ state.records, record.key ≠ key := by
  constructor
  . intro hnone record hmem hkey
    obtain ⟨index, hindex⟩ := List.getElem?_of_mem hmem
    have : state.byKey.lookup key = some index := by
      rw [h.lookup_byKey, hindex]
      simp [hkey]
    rw [hnone] at this
    cases this
  . intro hall
    cases hlookup : state.byKey.lookup key with
    | none => rfl
    | some index =>
      rw [h.lookup_byKey, Option.map_eq_some_iff] at hlookup
      obtain ⟨record, hrecord, hkey⟩ := hlookup
      exact absurd hkey (hall record (List.mem_of_getElem? hrecord))

theorem nodup_keys : (state.records.map (·.key)).Nodup := by
  induction h with
  | empty => simp [Recovered.empty]
  | @publish state record _ hstate hr ih =>
    change ((state.records ++ [record]).map (·.key)).Nodup
    rw [List.map_append, List.map_singleton, ← List.concat_eq_append]
    apply ih.concat
    rw [List.mem_map]
    rintro ⟨other, hother, hkey⟩
    exact hstate.key_mem_iff.mp hr.key_fresh other hother hkey

theorem getD_nextTurnSeq (scope : TurnScope) :
    HashMap.getD state.nextTurnSeq scope 0
      =
    (state.records.filter (fun record => record.scope = scope)).length := by
  induction h with
  | empty => rfl
  | @publish state record _ _ hr ih =>
    change HashMap.getD (AList.insert record.scope (record.turnSeq + 1) state.nextTurnSeq) scope 0
      = ((state.records ++ [record]).filter _).length
    rw [HashMap.getD_insert, List.filter_append, List.length_append, ← ih]
    by_cases hscope : scope = record.scope
    . rw [if_pos hscope, hr.turnSeq_eq, hscope]
      simp
    . rw [if_neg hscope]
      simp [Ne.symm hscope]

theorem filter_turnSeq (scope : TurnScope) (cursor : Nat) :
    state.records.filter (fun record => record.scope = scope ∧ record.turnSeq ≥ cursor)
      =
    (state.records.filter (fun record => record.scope = scope)).drop cursor := by
  induction h with
  | empty => simp [Recovered.empty]
  | @publish state record _ hstate hr ih =>
    have hseq := hr.turnSeq_eq
    rw [hstate.getD_nextTurnSeq] at hseq
    change (state.records ++ [record]).filter _ = ((state.records ++ [record]).filter _).drop cursor
    rw [List.filter_append, List.filter_append, List.drop_append, ih]
    by_cases hscope : record.scope = scope
    . subst hscope
      by_cases hcursor : cursor ≤ record.turnSeq
      . simp [hcursor, ← hseq, Nat.sub_eq_zero_of_le hcursor]
      . obtain ⟨n, hn⟩ := Nat.exists_eq_add_of_lt (Nat.lt_of_not_le hcursor)
        simp [← hseq, hn, Nat.add_assoc]
    . simp [hscope]

end

def lastDigest (records : List EventRecord) : String :=
  (records.getLast?.map (·.recordSha256)).getD zeroSha256

theorem lastRecordSha256_eq (h : Replayed ext limits state) :
    state.lastRecordSha256 = lastDigest state.records := by
  cases h with
  | empty => rfl
  | publish _ _ => simp [lastDigest, Recovered.publish]

structure Continues (before : List EventRecord) (record : EventRecord) : Prop where
  storeSeq_eq : record.storeSeq = before.length
  turnSeq_eq : record.turnSeq = (before.filter (fun r => r.scope = record.scope)).length
  previous_eq : record.previousRecordSha256 = lastDigest before

section

variable (h : Replayed ext limits state)
include h

theorem exists_extends (heq : state.records = before ++ record :: after) :
    ∃ earlier consumed, Replayed ext limits earlier ∧ earlier.records = before
      ∧ earlier.Extends ext limits record consumed := by
  induction h generalizing after with
  | empty => simp [Recovered.empty] at heq
  | publish hstate hr ih =>
    rcases List.concat_eq_append_cons heq with ⟨hbefore, rfl⟩ | ⟨_, heq⟩
    . exact ⟨_, _, hstate, hbefore, hr⟩
    . exact ih heq

theorem continues (heq : state.records = before ++ record :: after) : Continues before record := by
  obtain ⟨earlier, _, hearlier, rfl, hr⟩ := h.exists_extends heq
  refine ⟨hr.storeSeq_eq, ?_, ?_⟩
  . rw [hr.turnSeq_eq, hearlier.getD_nextTurnSeq]
  . rw [hr.previous_eq, hearlier.lastRecordSha256_eq]

theorem valid_of_mem (hmem : record ∈ state.records) :
    validateRecord ext record limits = .ok ()
    ∧ record.storeSeq < limits.maxRecords
    ∧ record.turnSeq < 2 ^ 64 := by
  obtain ⟨_, _, hsplit⟩ := List.append_of_mem hmem
  obtain ⟨_, _, _, _, hr⟩ := h.exists_extends hsplit
  have := hr.storeSeq_eq
  have := hr.records_lt
  have := hr.turnSeq_lt
  exact ⟨hr.valid, by omega, by omega⟩

theorem byteCount_le : state.byteCount ≤ limits.maxStoreBytes := by
  cases h with
  | empty => exact Nat.zero_le _
  | publish _ hr => exact hr.total_le

theorem length_le : state.records.length ≤ limits.maxRecords := by
  cases h with
  | empty => exact Nat.zero_le _
  | publish _ hr =>
    have := hr.records_lt
    simp only [Recovered.publish, List.length_append, List.length_singleton]
    omega

end

end Replayed

namespace Logged

variable {state : Recovered}

theorem byteCount_eq (h : Logged ext limits state) :
    state.byteCount = (Log.frames (state.records.map (encodeRecord ext))).length := by
  induction h with
  | empty => rfl
  | publish _ hr ih =>
    change _ + _ = (Log.frames ((_ ++ [_]).map _)).length
    rw [List.map_append, Log.frames_append, List.length_append, ih, hr.encoded_eq]
    simp [Log.frame]

theorem exists_admits (h : Logged ext limits state)
    (heq : state.records = before ++ record :: after) :
    ∃ earlier r, Logged ext limits earlier ∧ earlier.records = before
      ∧ earlier.Admits ext limits r ∧ r.record = record := by
  induction h generalizing after with
  | empty => simp [Recovered.empty] at heq
  | publish hstate hr ih =>
    rcases List.concat_eq_append_cons heq with ⟨hbefore, hrecord⟩ | ⟨_, heq⟩
    . exact ⟨_, _, hstate, hbefore, hr, hrecord⟩
    . exact ih heq

theorem length_encodeRecord_le (h : Logged ext limits state) (hmem : record ∈ state.records) :
    (encodeRecord ext record).length ≤ limits.maxRecordBytes := by
  obtain ⟨_, _, hsplit⟩ := List.append_of_mem hmem
  obtain ⟨_, _, _, _, hr, rfl⟩ := h.exists_admits hsplit
  exact hr.length_le

end Logged

end EventStore
