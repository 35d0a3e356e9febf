import Trillionnium.EventStore.Impl.Recovery
import Trillionnium.EventStore.Lemmas.Durable

/-!
How the records of a segmented store are spread over its segments. `Written` describes the indexes
that the writer can build together with the layout of the records on disk.
-/

namespace EventStore

open Json List

variable {location : SegmentLocation}

structure Layout where
  completed : List (List EventRecord)
  active : List EventRecord

namespace Layout

def empty : Layout := { completed := [], active := [] }

def segments (l : Layout) : List (List EventRecord) := l.completed ++ [l.active]

def rotate (l : Layout) : Layout := { completed := l.completed ++ [l.active], active := [] }

def push (l : Layout) (record : EventRecord) : Layout := { l with active := l.active ++ [record] }

def activeId (l : Layout) : Nat := l.completed.length + 1

end Layout

def segmentFile (ext : Externals) (records : List EventRecord) : Bytes :=
  Log.frames (records.map (encodeRecord ext))

section Located

variable (ext : Externals)

def locateSegment (id : Nat) : Nat → List EventRecord → List (EventRecord × SegmentLocation)
  | _, [] => []
  | offset, record :: records =>
    let byteLen := (encodeRecord ext record).length + 1
    (record, { segmentId := id, offset := offset, byteLen := byteLen, storeSeq := record.storeSeq })
      :: locateSegment id (offset + byteLen) records

def locateSegments : Nat → List (List EventRecord) → List (EventRecord × SegmentLocation)
  | _, [] => []
  | id, segment :: segments => locateSegment ext id 0 segment ++ locateSegments (id + 1) segments

def Layout.located (l : Layout) : List (EventRecord × SegmentLocation) :=
  locateSegments ext 1 l.segments

variable {ext}

theorem segmentFile_append (records : List EventRecord) (record : EventRecord) :
    segmentFile ext (records ++ [record])
      =
    segmentFile ext records ++ Log.frame (encodeRecord ext record) := by
  simp [segmentFile, Log.frame]

theorem locateSegment_append (id offset : Nat) (records : List EventRecord) (record : EventRecord) :
    locateSegment ext id offset (records ++ [record])
      =
    locateSegment ext id offset records
      ++ [(record, {
        segmentId := id
        offset := offset + (segmentFile ext records).length
        byteLen := (encodeRecord ext record).length + 1
        storeSeq := record.storeSeq })] := by
  induction records generalizing offset with
  | nil => simp [locateSegment, segmentFile]
  | cons first records ih =>
    rw [cons_append, locateSegment, ih]
    simp only [locateSegment, segmentFile, map_cons, Log.frames_cons, length_append,
      length_cons, cons_append]
    congr 5
    omega

theorem map_fst_locateSegment (id offset : Nat) (records : List EventRecord) :
    (locateSegment ext id offset records).map (·.1) = records := by
  induction records generalizing offset with
  | nil => rfl
  | cons record records ih =>
    rw [locateSegment, map_cons, ih]

theorem locateSegments_append (id : Nat) (segments segments' : List (List EventRecord)) :
    locateSegments ext id (segments ++ segments')
      =
    locateSegments ext id segments ++ locateSegments ext (id + segments.length) segments' := by
  induction segments generalizing id with
  | nil => simp [locateSegments]
  | cons segment segments ih =>
    rw [cons_append, locateSegments, locateSegments, ih, append_assoc, length_cons]
    congr 3
    omega

theorem map_fst_locateSegments {id : Nat} {segments : List (List EventRecord)} :
    (locateSegments ext id segments).map (·.1) = segments.flatten := by
  induction segments generalizing id with
  | nil => rfl
  | cons segment segments ih =>
    rw [locateSegments, map_append, map_fst_locateSegment, ih, flatten_cons]

namespace Layout

theorem located_eq (l : Layout) :
    l.located ext = locateSegments ext 1 l.completed ++ locateSegment ext l.activeId 0 l.active := by
  unfold located segments activeId
  rw [locateSegments_append]
  simp [locateSegments, Nat.add_comm]

theorem located_rotate (l : Layout) : l.rotate.located ext = l.located ext := by
  unfold located segments rotate
  rw [locateSegments_append _ _ [[]]]
  simp [locateSegments, locateSegment]

theorem located_push (l : Layout) (record : EventRecord) :
    (l.push record).located ext
      =
    l.located ext ++ [(record, {
      segmentId := l.activeId
      offset := (segmentFile ext l.active).length
      byteLen := (encodeRecord ext record).length + 1
      storeSeq := record.storeSeq })] := by
  rw [located_eq, located_eq]
  change locateSegments ext 1 l.completed ++ locateSegment ext l.activeId 0 (l.active ++ [record]) = _
  rw [locateSegment_append, Nat.zero_add, append_assoc]

theorem map_fst_located (l : Layout) : (l.located ext).map (·.1) = l.segments.flatten :=
  map_fst_locateSegments

end Layout

structure Addresses (ext : Externals) (file : Bytes) (record : EventRecord) (location : SegmentLocation) :
    Prop where
  byteLen_eq : location.byteLen = (encodeRecord ext record).length + 1
  storeSeq_eq : location.storeSeq = record.storeSeq
  slice_eq : (file.drop location.offset).take location.byteLen = Log.frame (encodeRecord ext record)
  end_le : location.offset + location.byteLen ≤ file.length

theorem addresses_of_mem_locateSegment {id : Nat} (before : Bytes) {records : List EventRecord}
    {record : EventRecord} (h : (record, location) ∈ locateSegment ext id before.length records) :
    location.segmentId = id ∧ Addresses ext (before ++ segmentFile ext records) record location := by
  induction records generalizing before with
  | nil => simp [locateSegment] at h
  | cons first records ih =>
    rw [locateSegment] at h
    have hfile : before ++ segmentFile ext (first :: records)
        = (before ++ Log.frame (encodeRecord ext first)) ++ segmentFile ext records := by
      simp [segmentFile, Log.frame]
    cases mem_cons.mp h with
    | inl h =>
      simp only [Prod.mk.injEq] at h
      obtain ⟨rfl, rfl⟩ := h
      refine ⟨rfl, rfl, rfl, ?_, ?_⟩
      . rw [hfile, append_assoc]
        simp only [drop_left]
        rw [take_append_of_le_length (by simp)]
        exact take_of_length_le (by simp)
      . rw [hfile]
        simp only [length_append, Log.length_frame]
        omega
    | inr h =>
      rw [hfile]
      apply ih
      simpa [Nat.add_assoc] using h

theorem addresses_of_mem_locateSegments {id : Nat} {segments : List (List EventRecord)}
    {record : EventRecord} (h : (record, location) ∈ locateSegments ext id segments) :
    ∃ i records, segments[i]? = some records ∧ location.segmentId = id + i
      ∧ record ∈ records ∧ Addresses ext (segmentFile ext records) record location := by
  induction segments generalizing id with
  | nil => simp [locateSegments] at h
  | cons segment segments ih =>
    rw [locateSegments, mem_append] at h
    cases h with
    | inl h =>
      obtain ⟨hid, haddresses⟩ := addresses_of_mem_locateSegment [] h
      have hmem : record ∈ segment := by
        rw [← @map_fst_locateSegment ext id 0 segment]
        exact mem_map_of_mem h
      exact ⟨0, segment, rfl, hid, hmem, haddresses⟩
    | inr h =>
      obtain ⟨i, records, hget, hid, hmem, haddresses⟩ := ih h
      exact ⟨i + 1, records, hget, by omega, hmem, haddresses⟩

end Located

def Indexes.publishAt (indexes : Indexes) (r : Reserved) (segmentId offset : Nat) : Indexes where
  toRecovered := indexes.publishReserved r
  byScope := indexes.byScope.insert r.record.scope
    (HashMap.getD indexes.byScope r.record.scope [] ++ [indexes.records.length])
  locations := indexes.locations.insert r.record.key {
    segmentId := segmentId
    offset := offset
    byteLen := r.encoded.length
    storeSeq := r.record.storeSeq
  }

section Written

variable (ext : Externals) (config : SegmentedEventStoreConfig)

inductive Written : Indexes → Layout → Prop where
  | empty : Written Indexes.empty Layout.empty
  | rotate {indexes : Indexes} {l : Layout} (h : Written indexes l)
      (hcap : l.segments.length < maxEventSegments) : Written indexes l.rotate
  | publish {indexes : Indexes} {l : Layout} {r : Reserved} (h : Written indexes l)
      (hr : indexes.Admits ext config.limits r) (hroom : l.active.length < config.maxSegmentRecords) :
    Written (indexes.publishAt r l.activeId (segmentFile ext l.active).length) (l.push r.record)

variable {ext config}

namespace Written

variable {indexes : Indexes} {l : Layout}

section

variable (h : Written ext config indexes l)
include h

theorem logged : Logged ext config.limits indexes.toRecovered := by
  induction h with
  | empty => exact .empty
  | rotate _ _ ih => exact ih
  | publish _ hr _ ih => exact ih.publish hr

theorem records_eq : indexes.records = l.segments.flatten := by
  induction h with
  | empty => rfl
  | rotate _ _ ih =>
    rw [ih]
    simp [Layout.rotate, Layout.segments]
  | @publish indexes l r _ _ _ ih =>
    change indexes.records ++ [r.record] = _
    rw [ih]
    simp [Layout.push, Layout.segments]

theorem length_segments_le : l.segments.length ≤ maxEventSegments := by
  induction h with
  | empty => decide
  | rotate _ hcap _ =>
    simp only [Layout.rotate, Layout.segments, length_append, length_singleton] at hcap ⊢
    omega
  | publish _ _ _ ih => simpa [Layout.segments, Layout.push] using ih

theorem length_le : ∀ segment ∈ l.segments, segment.length ≤ config.maxSegmentRecords := by
  induction h with
  | empty => simp [Layout.empty, Layout.segments]
  | rotate _ _ ih =>
    exact forall_mem_concat ih (Nat.zero_le _)
  | @publish _ l r _ _ hroom ih =>
    apply forall_mem_concat
    . intro segment hsegment
      exact ih segment (mem_append_left _ hsegment)
    . simp only [Layout.push, length_append, length_singleton]
      omega

theorem entries_locations :
    indexes.locations.entries
      =
    ((l.located ext).map (fun p => (⟨p.1.key, p.2⟩ : Sigma fun _ : EventKey => SegmentLocation))).reverse := by
  induction h with
  | empty => rfl
  | rotate _ _ ih => rw [ih, Layout.located_rotate]
  | @publish indexes l r hwritten hr _ ih =>
    have hfresh : r.record.key ∉ indexes.locations := by
      rw [AList.mem_keys, AList.keys, ih, keys]
      simp only [map_reverse, mem_reverse, map_map, mem_map, not_exists, not_and]
      intro p hp hkey
      have hrecord : p.1 ∈ indexes.records := by
        rw [hwritten.records_eq, ← @Layout.map_fst_located ext l]
        exact mem_map_of_mem hp
      exact hwritten.logged.replayed.key_mem_iff.mp hr.key_fresh p.1 hrecord hkey
    change (AList.insert _ _ indexes.locations).entries = _
    rw [AList.entries_insert_of_notMem hfresh, ih, Layout.located_push, map_append,
      reverse_append, hr.encoded_eq, Log.length_frame]
    rfl

theorem lookup_locations {key : EventKey} :
    indexes.locations.lookup key = some location
      ↔ ∃ record, (record, location) ∈ l.located ext ∧ record.key = key := by
  change location ∈ indexes.locations.lookup key ↔ _
  rw [AList.mem_lookup_iff, h.entries_locations]
  simp only [mem_reverse, mem_map, Sigma.mk.injEq, heq_eq_eq, Prod.exists]
  constructor
  . rintro ⟨record, location', hmem, hkey, rfl⟩
    exact ⟨record, hmem, hkey⟩
  . rintro ⟨record, hmem, hkey⟩
    exact ⟨record, location, hmem, hkey, rfl⟩

end

end Written

end Written

section SegmentedLog

variable (ext : Externals) (config : SegmentedEventStoreConfig)

def Layout.isFull (l : Layout) (encodedLen : Nat) : Bool :=
  l.active.length > 0
    && (l.active.length ≥ config.maxSegmentRecords
      || (checkedAdd (segmentFile ext l.active).length encodedLen).any (· > config.maxSegmentBytes))

structure SegmentedLog where
  indexes : Indexes
  layout : Layout

namespace SegmentedLog

def rotate (log : SegmentedLog) : SegmentedLog := { log with layout := log.layout.rotate }

def enter (log : SegmentedLog) (r : Reserved) : SegmentedLog where
  indexes := log.indexes.publishAt r log.layout.activeId (segmentFile ext log.layout.active).length
  layout := log.layout.push r.record

def place (log : SegmentedLog) (r : Reserved) : Except EventStoreError AppendResult × SegmentedLog :=
  if log.layout.isFull ext config r.encoded.length then
    if log.layout.segments.length ≥ maxEventSegments then
      (.error .capacityExhausted, log)
    else
      (.ok { disposition := .appended, record := r.record }, log.rotate.enter ext r)
  else
    (.ok { disposition := .appended, record := r.record }, log.enter ext r)

def accept (log : SegmentedLog) (input : EventInput) :
    Except EventStoreError AppendResult × SegmentedLog :=
  match validateEventInput input config.limits with
  | .error e => (.error e, log)
  | .ok () =>
    match log.indexes.reserve ext config.limits input with
    | .error e => (.error e, log)
    | .ok (.existing record) => (.ok { disposition := .existing, record := record }, log)
    | .ok (.reserved r) => log.place ext config r

variable {ext config}

variable {log : SegmentedLog} {r : Reserved}

theorem place_of_room (h : log.layout.isFull ext config r.encoded.length = false) :
    log.place ext config r
      =
    (.ok { disposition := .appended, record := r.record }, log.enter ext r) := by
  unfold place
  rw [if_neg (by simp [h])]

theorem place_of_full (h : log.layout.isFull ext config r.encoded.length = true)
    (hcap : log.layout.segments.length < maxEventSegments) :
    log.place ext config r
      =
    (.ok { disposition := .appended, record := r.record }, log.rotate.enter ext r) := by
  unfold place
  rw [if_pos h, if_neg (by omega)]

theorem place_of_cap (h : log.layout.isFull ext config r.encoded.length = true)
    (hcap : maxEventSegments ≤ log.layout.segments.length) :
    log.place ext config r = (.error .capacityExhausted, log) := by
  unfold place
  rw [if_pos h, if_pos hcap]

theorem accept_of_reserved {input : EventInput}
    (hinput : validateEventInput input config.limits = .ok ())
    (hreserve : log.indexes.reserve ext config.limits input = .ok (.reserved r)) :
    log.accept ext config input = log.place ext config r := by
  unfold accept
  rw [hinput, hreserve]

theorem place_eq (log : SegmentedLog) (r : Reserved)
    (h : (log.place ext config r).2.layout.segments.length < maxEventSegments) :
    (log.place ext config r).1 = .ok { disposition := .appended, record := r.record }
    ∧ (log.place ext config r).2.indexes.toRecovered = log.indexes.publishReserved r := by
  unfold place at h ⊢
  split_ifs at h ⊢
  . -- the log is unchanged here, so it has too many segments already
    dsimp only at h
    omega
  . exact ⟨rfl, rfl⟩
  . exact ⟨rfl, rfl⟩

theorem length_place (log : SegmentedLog) (r : Reserved) :
    log.layout.segments.length ≤ (log.place ext config r).2.layout.segments.length
    ∧ (log.place ext config r).2.layout.segments.length ≤ log.layout.segments.length + 1 := by
  unfold place
  split_ifs
  . simp
  . simp [enter, rotate, Layout.rotate, Layout.push, Layout.segments]
  . simp [enter, Layout.push, Layout.segments]

theorem accept_eq (log : SegmentedLog) (input : EventInput)
    (h : (log.accept ext config input).2.layout.segments.length < maxEventSegments) :
    (log.accept ext config input).1 = (log.indexes.accept ext config.limits input).1
    ∧ (log.accept ext config input).2.indexes.toRecovered
      = (log.indexes.accept ext config.limits input).2 := by
  unfold accept at h ⊢
  unfold Recovered.accept
  cases hinput : validateEventInput input config.limits with
  | error e => exact ⟨rfl, rfl⟩
  | ok _ =>
    cases hreserve : log.indexes.reserve ext config.limits input with
    | error e => exact ⟨rfl, rfl⟩
    | ok reservation =>
      cases reservation with
      | existing record => exact ⟨rfl, rfl⟩
      | reserved r =>
        simp only [hinput, hreserve] at h
        exact place_eq log r h

theorem length_accept (log : SegmentedLog) (input : EventInput) :
    log.layout.segments.length ≤ (log.accept ext config input).2.layout.segments.length
    ∧ (log.accept ext config input).2.layout.segments.length ≤ log.layout.segments.length + 1 := by
  unfold accept
  split
  . simp
  . split
    . simp
    . simp
    . apply length_place

end SegmentedLog

variable {ext config}

theorem Layout.length_lt_of_isFull {l : Layout} {encodedLen : Nat} (hmax : 0 < config.maxSegmentRecords)
    (h : l.isFull ext config encodedLen = false) : l.active.length < config.maxSegmentRecords := by
  simp only [isFull, Bool.and_eq_false_iff, Bool.or_eq_false_iff, decide_eq_false_iff_not] at h
  omega

end SegmentedLog

end EventStore
