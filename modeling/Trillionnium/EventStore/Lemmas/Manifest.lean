import Trillionnium.EventStore.Lemmas.Directory

/-!
The manifests that the sidecars hold: what the writer puts into them, and that they are decoded to
what was written and fit the byte limit of sidecars.
-/

namespace EventStore

open Json SegmentedEventStore List

variable {record : EventRecord} {location : SegmentLocation}

section Codec

variable {codec : FloatCodec}

structure SegmentLocation.Fits (location : SegmentLocation) : Prop where
  segmentId : location.segmentId < 2 ^ 64
  offset : location.offset < 2 ^ 64
  byteLen : location.byteLen < 2 ^ 64
  storeSeq : location.storeSeq < 2 ^ 64

theorem SegmentLocation.readsAs (location : SegmentLocation) (h : location.Fits) :
    ∃ d, ReadsAs codec location.toValue d ∧ SegmentLocation.ofDocument d = .ok location := by
  obtain ⟨d, hread, hfields⟩ := @readsAs_struct codec fieldNames
    [natValue location.segmentId, natValue location.offset, natValue location.byteLen,
      natValue location.storeSeq]
    [.ofNat _ h.segmentId, .ofNat _ h.offset, .ofNat _ h.byteLen, .ofNat _ h.storeSeq]
    (by decide) rfl
    (.cons (readsAs_nat _) (.cons (readsAs_nat _) (.cons (readsAs_nat _)
      (.cons (readsAs_nat _) .nil))))
  refine ⟨d, hread, ?_⟩
  unfold SegmentLocation.ofDocument
  rw [hfields]
  rfl

theorem IndexManifestSegment.readsAs (segment : IndexManifestSegment) (hid : segment.id < 2 ^ 64)
    (hbytes : segment.byteCount < 2 ^ 64) (hrecords : segment.recordCount < 2 ^ 64) :
    ∃ d, ReadsAs codec segment.toValue d ∧ IndexManifestSegment.ofDocument d = .ok segment := by
  obtain ⟨d, hread, hfields⟩ := @readsAs_struct codec fieldNames
    [natValue segment.id, natValue segment.byteCount, natValue segment.recordCount]
    [.ofNat _ hid, .ofNat _ hbytes, .ofNat _ hrecords]
    (by decide) rfl
    (.cons (readsAs_nat _) (.cons (readsAs_nat _) (.cons (readsAs_nat _) .nil)))
  refine ⟨d, hread, ?_⟩
  unfold IndexManifestSegment.ofDocument
  rw [hfields]
  rfl

theorem IndexManifestEntry.readsAs (entry : IndexManifestEntry) (h : entry.location.Fits) :
    ∃ d, ReadsAs codec entry.toValue d ∧ IndexManifestEntry.ofDocument d = .ok entry := by
  obtain ⟨scope, hscope, hofScope⟩ := @TurnScope.readsAs codec entry.scope
  obtain ⟨location, hlocation, hofLocation⟩ := @SegmentLocation.readsAs codec entry.location h
  obtain ⟨d, hread, hfields⟩ := @readsAs_struct codec fieldNames
    [entry.scope.toValue, .string entry.eventId, entry.location.toValue]
    [scope, .ofString entry.eventId, location]
    (by decide) rfl (.cons hscope (.cons readsAs_string (.cons hlocation .nil)))
  refine ⟨d, hread, ?_⟩
  unfold IndexManifestEntry.ofDocument
  rw [hfields]
  simp only [Except.ok_bind, hofScope, hofLocation]
  rfl

structure IndexManifest.Fits (manifest : IndexManifest) : Prop where
  recordCount_lt : manifest.recordCount < 2 ^ 64
  byteCount_lt : manifest.byteCount < 2 ^ 64
  segments : ∀ segment ∈ manifest.segments,
    segment.id < 2 ^ 64 ∧ segment.byteCount < 2 ^ 64 ∧ segment.recordCount < 2 ^ 64
  entries : ∀ entry ∈ manifest.entries, entry.location.Fits

theorem IndexManifest.readsAs (manifest : IndexManifest) (h : manifest.Fits) :
    ∃ d, ReadsAs codec manifest.toValue d ∧ IndexManifest.ofDocument d = .ok manifest := by
  obtain ⟨segments, segmentList, hsegments, hsegmentList, hofSegments⟩ :=
    @readsAs_list codec _ IndexManifestSegment.toValue IndexManifestSegment.ofDocument manifest.segments
      (fun segment hmem =>
        let ⟨hid, hbytes, hrecords⟩ := h.segments segment hmem
        segment.readsAs hid hbytes hrecords)
  obtain ⟨entries, entryList, hentries, hentryList, hofEntries⟩ :=
    @readsAs_list codec _ IndexManifestEntry.toValue IndexManifestEntry.ofDocument manifest.entries
      (fun entry hmem => entry.readsAs (h.entries entry hmem))
  obtain ⟨d, hread, hfields⟩ := @readsAs_struct codec fieldNames
    [.string manifest.schema, natValue manifest.recordCount, natValue manifest.byteCount,
      .string manifest.lastRecordSha256, .array (manifest.segments.map (·.toValue)),
      .array (manifest.entries.map (·.toValue))]
    [.ofString manifest.schema, .ofNat _ h.recordCount_lt, .ofNat _ h.byteCount_lt,
      .ofString manifest.lastRecordSha256, segments, entries]
    (by decide) rfl
    (.cons readsAs_string (.cons (readsAs_nat _) (.cons (readsAs_nat _)
      (.cons readsAs_string (.cons hsegments (.cons hentries .nil))))))
  refine ⟨d, hread, ?_⟩
  unfold IndexManifest.ofDocument
  rw [hfields]
  simp only [Except.ok_bind, hsegmentList, hofSegments, hentryList, hofEntries]
  rfl

theorem SnapshotManifest.readsAs (manifest : SnapshotManifest)
    (hrecordCount : manifest.recordCount < 2 ^ 64) (hbyteCount : manifest.byteCount < 2 ^ 64)
    (hrecords : ∀ record ∈ manifest.records, record.storeSeq < 2 ^ 64 ∧ record.turnSeq < 2 ^ 64
      ∧ FloatsReadBack codec record.payload.value) :
    ∃ d, ReadsAs codec manifest.toValue d ∧ SnapshotManifest.ofDocument d = .ok manifest := by
  obtain ⟨records, recordList, hreads, hrecordList, hofRecords⟩ :=
    @readsAs_list codec _ EventRecord.toValue EventRecord.ofDocument manifest.records
      (fun record hmem =>
        let ⟨hstore, hturn, hfloats⟩ := hrecords record hmem
        record.readsAs hstore hturn hfloats)
  obtain ⟨d, hread, hfields⟩ := @readsAs_struct codec fieldNames
    [.string manifest.schema, natValue manifest.recordCount, natValue manifest.byteCount,
      .string manifest.lastRecordSha256, .array (manifest.records.map (·.toValue))]
    [.ofString manifest.schema, .ofNat _ hrecordCount, .ofNat _ hbyteCount,
      .ofString manifest.lastRecordSha256, records]
    (by decide) rfl
    (.cons readsAs_string (.cons (readsAs_nat _) (.cons (readsAs_nat _)
      (.cons readsAs_string (.cons hreads .nil)))))
  refine ⟨d, hread, ?_⟩
  unfold SnapshotManifest.ofDocument
  rw [hfields]
  simp only [Except.ok_bind, hrecordList, hofRecords]
  rfl

theorem depthList_le {n : Nat} : Value.depthList xs ≤ n ↔ ∀ x ∈ xs, x.depth ≤ n := by
  induction xs with
  | nil => simp [Value.depthList]
  | cons x xs ih => simp [Value.depthList, ih]

theorem IndexManifest.depth_toValue (manifest : IndexManifest) : manifest.toValue.depth ≤ 4 := by
  have hsegments : Value.depthList (manifest.segments.map (·.toValue)) ≤ 1 := by
    rw [depthList_le]
    simp [IndexManifestSegment.toValue, natValue, Value.depth, Value.depthFields]
  have hentries : Value.depthList (manifest.entries.map (·.toValue)) ≤ 2 := by
    rw [depthList_le]
    simp [IndexManifestEntry.toValue, SegmentLocation.toValue, TurnScope.depth_toValue, natValue,
      Value.depth, Value.depthFields]
  simp only [IndexManifest.toValue, natValue, Value.depth, Value.depthFields]
  omega

theorem SnapshotManifest.depth_toValue (manifest : SnapshotManifest) :
    manifest.toValue.depth = Value.depthList (manifest.records.map (·.toValue)) + 2 := by
  simp [SnapshotManifest.toValue, natValue, Value.depth, Value.depthFields]

end Codec

def maxSnapshotDepth : Nat := recursionLimit - 4

theorem SnapshotManifest.depth_lt_iff (manifest : SnapshotManifest) :
    manifest.toValue.depth < recursionLimit
      ↔ ∀ record ∈ manifest.records, record.payload.value.depth ≤ maxSnapshotDepth := by
  have hlimit : recursionLimit = 128 := rfl
  have hmax : maxSnapshotDepth = 124 := rfl
  have hdepth : manifest.toValue.depth < recursionLimit
      ↔ Value.depthList (manifest.records.map (·.toValue)) ≤ 125 := by
    rw [SnapshotManifest.depth_toValue]
    omega
  rw [hdepth, depthList_le]
  simp only [mem_map, forall_exists_index, and_imp, forall_apply_eq_imp_iff₂,
    EventRecord.depth_toValue]
  refine forall₂_congr (fun record _ => ?_)
  omega

section Layout

variable (ext : Externals)

def entryOf (p : EventRecord × SegmentLocation) : IndexManifestEntry where
  scope := p.1.scope
  eventId := p.1.eventId
  location := p.2

def segmentOf (summary : SegmentSummary) : IndexManifestSegment where
  id := summary.id
  byteCount := summary.byteCount
  recordCount := summary.recordCount

def Layout.indexManifest (l : Layout) : IndexManifest where
  schema := segmentIndexSchema
  recordCount := l.segments.flatten.length
  byteCount := (segmentFile ext l.segments.flatten).length
  lastRecordSha256 := Replayed.lastDigest l.segments.flatten
  segments := (summariesOf ext 1 l.segments).map segmentOf
  entries := (l.located ext).map entryOf

def snapshotOf (records : List EventRecord) : SnapshotManifest where
  schema := segmentSnapshotSchema
  recordCount := records.length
  byteCount := (segmentFile ext records).length
  lastRecordSha256 := Replayed.lastDigest records
  records := records

variable {ext} {config : SegmentedEventStoreConfig} {state : SegmentedState} {l : Layout}

theorem SegmentsHold.map_segmentOf {id : Nat} {segments : List SegmentMeta}
    (h : SegmentsHold ext id segments layout) :
    segments.map (fun segment =>
        (⟨segment.id, segment.byteCount, segment.recordCount⟩ : IndexManifestSegment))
      =
    (summariesOf ext id layout).map segmentOf := by
  induction h with
  | nil => rfl
  | @cons id segment segments records layout hsegment _ ih =>
    rw [map_cons, ih, summariesOf, map_cons]
    simp [segmentOf, summaryOf, hsegment.id_eq, hsegment.byteCount_eq, hsegment.file_eq,
      hsegment.recordCount_eq]

theorem storeSeq_of_mem_located (h : (record, location) ∈ l.located ext) :
    location.storeSeq = record.storeSeq := by
  obtain ⟨_, _, _, _, _, haddresses⟩ := addresses_of_mem_locateSegments h
  exact haddresses.storeSeq_eq

theorem Replayed.pairwise_storeSeq {limits : EventStoreLimits} {recovered : Recovered}
    (h : Replayed ext limits recovered) :
    recovered.records.Pairwise (fun a b => a.storeSeq < b.storeSeq) := by
  induction h with
  | empty => exact .nil
  | @publish recovered record _ hrecovered hr ih =>
    change (recovered.records ++ [record]).Pairwise _
    apply pairwise_concat ih
    intro a ha
    rw [hr.storeSeq_eq]
    obtain ⟨before, after, heq⟩ := append_of_mem ha
    rw [(hrecovered.continues heq).storeSeq_eq, heq]
    simp

theorem Written.pairwise_entries (h : Written ext config indexes l) :
    ((l.located ext).map entryOf).Pairwise (fun a b => a.location.storeSeq < b.location.storeSeq) := by
  have hrecords := h.logged.replayed.pairwise_storeSeq
  rw [h.records_eq, ← @Layout.map_fst_located ext l, pairwise_map] at hrecords
  rw [pairwise_map]
  apply hrecords.imp_of_mem
  intro a b ha hb hlt
  change a.2.storeSeq < b.2.storeSeq
  rw [storeSeq_of_mem_located ha, storeSeq_of_mem_located hb]
  exact hlt

theorem SegmentedState.Represents.indexManifest_eq (h : state.Represents ext config l) :
    indexManifest state = l.indexManifest ext := by
  have hentries : (state.locations.entries.map (fun entry =>
      (⟨entry.1.scope, entry.1.eventId, entry.2⟩ : IndexManifestEntry))).Perm
      ((l.located ext).map entryOf) := by
    rw [h.written.entries_locations, map_reverse, map_map]
    exact reverse_perm _
  unfold indexManifest Layout.indexManifest
  rw [insertionSort_eq_of_perm hentries h.written.pairwise_entries, h.segments.map_segmentOf]
  rw [h.written.logged.byteCount_eq, h.written.logged.replayed.lastRecordSha256_eq, h.written.records_eq]
  rfl

theorem SegmentedState.Represents.snapshotManifest_eq (h : state.Represents ext config l) :
    snapshotManifest state = snapshotOf ext l.segments.flatten := by
  unfold snapshotManifest snapshotOf
  rw [h.written.logged.byteCount_eq, h.written.logged.replayed.lastRecordSha256_eq, h.written.records_eq]
  rfl

end Layout

section Size

variable {ext : Externals} {config : SegmentedEventStoreConfig} {l : Layout} {indexes : Indexes}

theorem length_segmentFile (records : List EventRecord) :
    (segmentFile ext records).length
      =
    (records.map (fun record => (encodeRecord ext record).length + 1)).sum := by
  induction records with
  | nil => rfl
  | cons record records ih =>
    have hcons : segmentFile ext (record :: records)
        = Log.frame (encodeRecord ext record) ++ segmentFile ext records := by
      simp [segmentFile, Log.frame]
    rw [hcons, length_append, Log.length_frame, ih, map_cons, sum_cons]

theorem length_entryOf_le {limits : EventStoreLimits} (hrecord : ValidRecord ext record limits)
    (h : location.Fits) :
    (write ext.float (entryOf (record, location)).toValue).length ≤ (encodeRecord ext record).length := by
  have hpayload := length_of_requireSha256 hrecord.payloadSha256
  have hprevious := length_of_requireSha256 hrecord.previousRecordSha256
  have hdigest := length_of_requireSha256 hrecord.recordSha256
  have h1 := length_write_nat ext.float h.segmentId
  have h2 := length_write_nat ext.float h.offset
  have h3 := length_write_nat ext.float h.byteLen
  have h4 := length_write_nat ext.float h.storeSeq
  have h5 := (length_writeString record.payloadSha256).1
  have h6 := (length_writeString record.previousRecordSha256).1
  have h7 := (length_writeString record.recordSha256).1
  have k1 : (writeString "scope").length = 7 := by decide
  have k2 : (writeString "event_id").length = 10 := by decide
  have k3 : (writeString "location").length = 10 := by decide
  have k4 : (writeString "segment_id").length = 12 := by decide
  have k5 : (writeString "offset").length = 8 := by decide
  have k6 : (writeString "byte_len").length = 10 := by decide
  have k7 : (writeString "store_seq").length = 11 := by decide
  unfold encodeRecord
  simp only [entryOf, IndexManifestEntry.toValue, SegmentLocation.toValue, natValue,
    EventRecord.toValue, EventRecord.preimageFields, cons_append, nil_append,
    length_write_object, map_cons, map_nil, sum_cons, sum_nil, memberLength,
    write_string]
  omega

theorem getElem?_summariesOf {id : Nat} {i : Nat} :
    (summariesOf ext id layout)[i]? = layout[i]?.map (summaryOf ext (id + i)) := by
  induction layout generalizing id i with
  | nil => simp [summariesOf]
  | cons records layout ih =>
    cases i with
    | zero => rfl
    | succ i =>
      rw [summariesOf, List.getElem?_cons_succ, List.getElem?_cons_succ, ih]
      congr 2
      omega

theorem exists_of_mem_summariesOf {id : Nat} (h : summary ∈ summariesOf ext id layout) :
    ∃ i records, layout[i]? = some records ∧ summary = summaryOf ext (id + i) records := by
  obtain ⟨i, hi⟩ := List.getElem?_of_mem h
  rw [getElem?_summariesOf, Option.map_eq_some_iff] at hi
  obtain ⟨records, hrecords, heq⟩ := hi
  exact ⟨i, records, hrecords, heq.symm⟩

theorem length_summariesOf {id : Nat} : (summariesOf ext id layout).length = layout.length := by
  induction layout generalizing id with
  | nil => rfl
  | cons records layout ih => rw [summariesOf, length_cons, ih, length_cons]

theorem length_segmentFile_le {records : List EventRecord} {layout : List (List EventRecord)}
    (h : records ∈ layout) :
    (segmentFile ext records).length ≤ (segmentFile ext layout.flatten).length
    ∧ records.length ≤ layout.flatten.length := by
  obtain ⟨before, after, rfl⟩ := append_of_mem h
  rw [flatten_append, flatten_cons, length_segmentFile, length_segmentFile]
  simp only [map_append, sum_append, length_append]
  omega

namespace Written

theorem length_file_le (h : Written ext config indexes l) :
    (segmentFile ext l.segments.flatten).length ≤ config.limits.maxStoreBytes := by
  have hbytes := h.logged.replayed.byteCount_le
  rw [h.logged.byteCount_eq, h.records_eq] at hbytes
  exact hbytes

section

variable (hlimits : config.limits.validate = .ok ()) (h : Written ext config indexes l)
include hlimits h

theorem bounds :
    l.segments.flatten.length ≤ 2 ^ 20 ∧ (segmentFile ext l.segments.flatten).length ≤ 2 ^ 30 := by
  obtain ⟨_, ⟨hstore, _, hrecords, _⟩, _⟩ := EventStoreLimits.validate_eq_ok hlimits
  have hlength := h.logged.replayed.length_le
  have hfile := h.length_file_le
  have hmaxRecords : maxEventRecords = 1048576 := rfl
  have hmaxStore : maxEventStoreBytes = 1024 * 1024 * 1024 := rfl
  rw [h.records_eq] at hlength
  omega

theorem location_bounds (hmem : (record, location) ∈ l.located ext) :
    record ∈ l.segments.flatten ∧ location.Fits := by
  obtain ⟨hrecords, hbytes⟩ := h.bounds hlimits
  obtain ⟨i, segment, hsegment, hid, hrecord, haddresses⟩ := addresses_of_mem_locateSegments hmem
  have hsegmentMem := mem_of_getElem? hsegment
  have hrecordMem : record ∈ l.segments.flatten := mem_flatten_of_mem hsegmentMem hrecord
  have hfile := (@length_segmentFile_le ext _ _ hsegmentMem).1
  have hend := haddresses.end_le
  have hi : i < l.segments.length := (List.getElem?_eq_some_iff.mp hsegment).1
  have hcap := h.length_segments_le
  have hcapEq : maxEventSegments = 1024 := rfl
  have hseq : location.storeSeq < 2 ^ 64 := by
    rw [haddresses.storeSeq_eq]
    rw [← h.records_eq] at hrecordMem
    have := (h.logged.replayed.valid_of_mem hrecordMem).2.1
    obtain ⟨_, ⟨_, _, hmax, _⟩, _⟩ := EventStoreLimits.validate_eq_ok hlimits
    have hmaxRecords : maxEventRecords = 1048576 := rfl
    omega
  exact ⟨hrecordMem, by omega, by omega, by omega, hseq⟩

theorem fits :
    (l.indexManifest ext).Fits where
  recordCount_lt := by
    have := h.bounds hlimits
    change l.segments.flatten.length < _
    omega
  byteCount_lt := by
    have := h.bounds hlimits
    change (segmentFile ext l.segments.flatten).length < _
    omega
  segments := by
    intro segment hsegment
    obtain ⟨hrecords, hbytes⟩ := h.bounds hlimits
    have hcap := h.length_segments_le
    have hcapEq : maxEventSegments = 1024 := rfl
    obtain ⟨summary, hsummary, rfl⟩ := mem_map.mp hsegment
    obtain ⟨i, records, hget, rfl⟩ := exists_of_mem_summariesOf hsummary
    have hi : i < l.segments.length := (List.getElem?_eq_some_iff.mp hget).1
    have hle := @length_segmentFile_le ext _ _ (mem_of_getElem? hget)
    simp only [segmentOf, summaryOf]
    omega
  entries := by
    intro entry hentry
    obtain ⟨⟨record, location⟩, hlocated, rfl⟩ := mem_map.mp hentry
    exact (h.location_bounds hlimits hlocated).2

end

theorem length_lastDigest (h : Written ext config indexes l) :
    ∀ label, requireSha256 (Replayed.lastDigest l.segments.flatten) label = .ok () := by
  intro label
  unfold Replayed.lastDigest
  cases hlast : l.segments.flatten.getLast? with
  | none => exact isSha256_zeroSha256 label
  | some record =>
    have hmem : record ∈ indexes.records := by
      rw [h.records_eq]
      exact mem_of_getLast? hlast
    have hvalid := (validateRecord_eq_ok ext).mp (h.logged.replayed.valid_of_mem hmem).1
    simp only [Option.map_some, Option.getD_some]
    rw [← hvalid.recordDigest]
    exact isSha256_sha256Hex ext _ label

section

variable (hlimits : config.limits.validate = .ok ()) (h : Written ext config indexes l)
include hlimits h

theorem add_le_sidecarByteLimit :
    (segmentFile ext l.segments.flatten).length + 1000000 ≤ sidecarByteLimit config := by
  obtain ⟨_, ⟨hstore, _⟩, _⟩ := EventStoreLimits.validate_eq_ok hlimits
  have hfile := h.length_file_le
  have hmaxStore : maxEventStoreBytes = 1024 * 1024 * 1024 := rfl
  have hmaxSidecar : maxSidecarBytes = 2 * 1024 * 1024 * 1024 := rfl
  unfold sidecarByteLimit
  apply Nat.le_trans _ (Nat.le_max_right _ _)
  apply Nat.le_min.mpr
  omega

theorem length_segments_sum :
    ((l.indexManifest ext).segments.map (fun segment =>
      (write ext.float segment.toValue).length + 1)).sum ≤ 200000 := by
  have hsegment : ∀ segment ∈ (l.indexManifest ext).segments,
      (write ext.float segment.toValue).length + 1 ≤ 98 := by
    intro segment hsegment
    obtain ⟨hid, hbytes, hrecords⟩ := (h.fits hlimits).segments segment hsegment
    have h1 := length_write_nat ext.float hid
    have h2 := length_write_nat ext.float hbytes
    have h3 := length_write_nat ext.float hrecords
    have k1 : (writeString "id").length = 4 := by decide
    have k2 : (writeString "byte_count").length = 12 := by decide
    have k3 : (writeString "record_count").length = 14 := by decide
    simp only [IndexManifestSegment.toValue, natValue, length_write_object, map_cons,
      map_nil, sum_cons, sum_nil, memberLength]
    omega
  have hsum := sum_le_card_nsmul ((l.indexManifest ext).segments.map (fun segment =>
    (write ext.float segment.toValue).length + 1)) 98 (by simpa using hsegment)
  have hlength : (l.indexManifest ext).segments.length = l.segments.length := by
    simp [Layout.indexManifest, length_summariesOf]
  have hcap := h.length_segments_le
  have hcapEq : maxEventSegments = 1024 := rfl
  rw [length_map, hlength] at hsum
  change _ ≤ l.segments.length * 98 at hsum
  omega

theorem length_entries_sum :
    ((l.indexManifest ext).entries.map (fun entry =>
      (write ext.float entry.toValue).length + 1)).sum
      ≤ (segmentFile ext l.segments.flatten).length := by
  rw [length_segmentFile, ← @Layout.map_fst_located ext l]
  simp only [Layout.indexManifest, map_map]
  apply sum_le_sum
  rintro ⟨record, location⟩ hmem
  obtain ⟨hrecord, hfits⟩ := h.location_bounds hlimits hmem
  rw [← h.records_eq] at hrecord
  have hvalid := (validateRecord_eq_ok ext).mp (h.logged.replayed.valid_of_mem hrecord).1
  exact Nat.succ_le_succ (length_entryOf_le hvalid hfits)

theorem length_header :
    (write ext.float (natValue (l.indexManifest ext).recordCount)).length ≤ 20
    ∧ (write ext.float (natValue (l.indexManifest ext).byteCount)).length ≤ 20
    ∧ (writeString (l.indexManifest ext).lastRecordSha256).length ≤ 6 * 64 + 2 := by
  have hfits := h.fits hlimits
  have hdigest := (length_writeString (Replayed.lastDigest l.segments.flatten)).2
  rw [length_of_requireSha256 (h.length_lastDigest "")] at hdigest
  exact ⟨length_write_nat ext.float hfits.recordCount_lt,
    length_write_nat ext.float hfits.byteCount_lt, hdigest⟩

theorem length_index_le :
    (write ext.float (l.indexManifest ext).toValue ++ [10]).length ≤ sidecarByteLimit config := by
  have hlimit := h.add_le_sidecarByteLimit hlimits
  obtain ⟨h1, h2, h3⟩ := h.length_header hlimits
  have h4 := length_write_array ext.float (·.toValue) (l.indexManifest ext).segments
  have h5 := length_write_array ext.float (·.toValue) (l.indexManifest ext).entries
  have h6 := h.length_segments_sum hlimits
  have h7 := h.length_entries_sum hlimits
  have h8 : (writeString (l.indexManifest ext).schema).length = 40 := by
    change (writeString segmentIndexSchema).length = 40
    decide
  rw [length_append]
  apply Nat.le_trans (Nat.add_le_add_right (length_write_record_le ext.float rfl) _)
  simp only [map_cons, map_nil, sum_cons, sum_nil, write_string,
    length_singleton]
  omega

theorem length_snapshot_le :
    (write ext.float (snapshotOf ext l.segments.flatten).toValue ++ [10]).length
      ≤ sidecarByteLimit config := by
  have hlimit := h.add_le_sidecarByteLimit hlimits
  obtain ⟨h1, h2, h3⟩ := h.length_header hlimits
  have h4 := length_write_array ext.float (·.toValue) l.segments.flatten
  have h5 := @length_segmentFile ext l.segments.flatten
  have h6 : (writeString segmentSnapshotSchema).length = 43 := by decide
  simp only [Layout.indexManifest] at h1 h2 h3
  unfold encodeRecord at h5
  rw [length_append]
  apply Nat.le_trans (Nat.add_le_add_right (length_write_record_le ext.float rfl) _)
  simp only [map_cons, map_nil, sum_cons, sum_nil, write_string,
    length_singleton, snapshotOf]
  omega

end

end Written

end Size

end EventStore
