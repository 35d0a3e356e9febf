import Trillionnium.EventStore.Lemmas.Manifest
import Trillionnium.Json.Lemmas.Beq

/-!
The sidecars of a store are accepted by a later open, also if the store has grown since they were
written.
-/

namespace EventStore

open Json SnapshotManifest Except List

variable {records : List EventRecord} {recovered : SegmentedRecovered}

variable {ext : Externals} {config : SegmentedEventStoreConfig} {l l' : Layout} {indexes : Indexes}

namespace Layout

inductive Grows (l : Layout) : Layout → Prop where
  | refl : Grows l l
  | rotate {l' : Layout} (h : Grows l l') : Grows l l'.rotate
  | push {l' : Layout} (h : Grows l l') (record : EventRecord) : Grows l (l'.push record)

namespace Grows

theorem trans (h : Grows l l') (h' : Grows l' l'') : Grows l l'' := by
  induction h' with
  | refl => exact h
  | rotate _ ih => exact ih.rotate
  | push _ record ih => exact ih.push record

theorem located_isPrefix (h : Grows l l') : l.located ext <+: l'.located ext := by
  induction h with
  | refl => exact prefix_refl _
  | rotate _ ih =>
    rw [located_rotate]
    exact ih
  | push _ record ih =>
    rw [located_push]
    exact ih.trans (prefix_append _ _)

theorem records_isPrefix (ext : Externals) (h : Grows l l') :
    l.segments.flatten <+: l'.segments.flatten := by
  rw [← @map_fst_located ext l, ← @map_fst_located ext l']
  exact h.located_isPrefix.map _

theorem segment_isPrefix (h : Grows l l') {i : Nat} (hget : l.segments[i]? = some records) :
    ∃ records', l'.segments[i]? = some records' ∧ records <+: records' := by
  induction h with
  | refl => exact ⟨records, hget, prefix_refl _⟩
  | @rotate l' _ ih =>
    obtain ⟨records', hget', hpre⟩ := ih
    refine ⟨records', ?_, hpre⟩
    have hi := (List.getElem?_eq_some_iff.mp hget').1
    change (l'.segments ++ [[]])[i]? = _
    rw [List.getElem?_append_left hi]
    exact hget'
  | @push l' _ record ih =>
    obtain ⟨records', hget', hpre⟩ := ih
    have hi := (List.getElem?_eq_some_iff.mp hget').1
    simp only [segments, length_append, length_singleton] at hi
    by_cases hlt : i < l'.completed.length
    . refine ⟨records', ?_, hpre⟩
      simp only [segments, Layout.push] at hget' ⊢
      rw [List.getElem?_append_left hlt] at hget' ⊢
      exact hget'
    . have hi : i = l'.completed.length := by omega
      refine ⟨l'.active ++ [record], ?_, ?_⟩
      . simp [segments, Layout.push, hi]
      . simp only [segments, hi, List.getElem?_concat_length, Option.some.injEq] at hget'
        rw [hget']
        exact hpre.trans (prefix_append _ _)

theorem length_le (h : Grows l l') : l.segments.length ≤ l'.segments.length := by
  have hlast : l.segments[l.segments.length - 1]? = some l.active := by
    simp [segments]
  obtain ⟨records', hget, _⟩ := h.segment_isPrefix hlast
  have hi := (List.getElem?_eq_some_iff.mp hget).1
  simp only [segments, length_append, length_singleton] at hi ⊢
  omega

end Grows

end Layout

section PrefixMetadata

theorem Written.exists_location (h : Written ext config indexes l) {record : EventRecord}
    (hmem : record ∈ indexes.records) :
    ∃ location, (record, location) ∈ l.located ext
      ∧ indexes.locations.lookup record.key = some location := by
  rw [h.records_eq, ← @Layout.map_fst_located ext l, mem_map] at hmem
  obtain ⟨⟨_, location⟩, hlocated, rfl⟩ := hmem
  exact ⟨location, hlocated, h.lookup_locations.mpr ⟨_, hlocated, rfl⟩⟩

theorem Written.foldlM_addLineBytes (h : Written ext config indexes l) {records : List EventRecord}
    {total : Nat} (hmem : ∀ record ∈ records, record ∈ indexes.records)
    (htotal : total + (segmentFile ext records).length < 2 ^ 64) :
    records.foldlM (addLineBytes (l.recovered ext indexes)) total
      =
    .ok (total + (segmentFile ext records).length) := by
  induction records generalizing total with
  | nil => rfl
  | cons record records ih =>
    obtain ⟨location, hlocated, hlookup⟩ := h.exists_location (hmem record (by simp))
    obtain ⟨_, _, _, _, _, haddresses⟩ := addresses_of_mem_locateSegments hlocated
    have hsplit : (segmentFile ext (record :: records)).length
        = (encodeRecord ext record).length + 1 + (segmentFile ext records).length := by
      rw [length_segmentFile, length_segmentFile, map_cons, sum_cons]
    have hadd : addLineBytes (l.recovered ext indexes) total record
        = .ok (total + ((encodeRecord ext record).length + 1)) := by
      unfold addLineBytes
      simp only [Layout.recovered, hlookup]
      rw [if_neg (not_not.mpr haddresses.storeSeq_eq), haddresses.byteLen_eq]
      rw [checkedAdd_eq_some.mpr ⟨rfl, by omega⟩]
    rw [hsplit] at htotal ⊢
    rw [foldlM_cons, hadd, ok_bind]
    rw [ih (fun r hr => hmem r (by simp [hr])) (by omega)]
    congr 1
    omega

theorem prefixDigest_eq (hpre : records <+: indexes.records) :
    prefixDigest (l.recovered ext indexes) records.length = Replayed.lastDigest records := by
  cases hcount : records.length with
  | zero =>
    rw [length_eq_zero_iff] at hcount
    rw [hcount]
    rfl
  | succ index =>
    have hget : indexes.records[index]? = records[index]? := by
      obtain ⟨rest, hrest⟩ := hpre
      rw [← hrest, List.getElem?_append_left (by omega)]
    unfold prefixDigest Replayed.lastDigest
    rw [List.getLast?_eq_getElem?, hcount, Nat.add_sub_cancel, ← hget]
    rfl

theorem Written.recoveredPrefixMetadata_eq (hlimits : config.limits.validate = .ok ())
    (h : Written ext config indexes l) (hpre : records <+: indexes.records) :
    recoveredPrefixMetadata (l.recovered ext indexes) records.length
      =
    .ok ((segmentFile ext records).length, Replayed.lastDigest records) := by
  have htake : indexes.records.take records.length = records := (prefix_iff_eq_take.mp hpre).symm
  have hlength := hpre.length_le
  have hbytes : (segmentFile ext records).length < 2 ^ 64 := by
    obtain ⟨rest, hrest⟩ := hpre
    have hbounds := (h.bounds hlimits).2
    rw [← h.records_eq, ← hrest, length_segmentFile, map_append, sum_append] at hbounds
    rw [length_segmentFile]
    omega
  have hfold := @Written.foldlM_addLineBytes ext config l indexes h records 0
    (fun record hrecord => hpre.subset hrecord) (by omega)
  rw [Nat.zero_add] at hfold
  unfold recoveredPrefixMetadata
  rw [prefixDigest_eq hpre]
  change (if records.length > indexes.records.length then _
    else (indexes.records.take records.length).foldlM _ 0 >>= _) = _
  rw [if_neg (by omega), htake, hfold]
  rfl

end PrefixMetadata

section Index

theorem find?_summariesOf {id : Nat} {i : Nat} :
    (summariesOf ext id layout).find? (·.id == id + i) = layout[i]?.map (summaryOf ext (id + i)) := by
  induction layout generalizing id i with
  | nil => simp [summariesOf]
  | cons records layout ih =>
    rw [summariesOf]
    cases i with
    | zero => simp [summaryOf]
    | succ i =>
      have hid : id + (i + 1) = id + 1 + i := by omega
      rw [List.find?_cons_of_neg (by simp [summaryOf]), hid, ih, List.getElem?_cons_succ]

variable {i : Nat} {records : List EventRecord}

theorem summary?_recovered (h : l.segments[i]? = some records) :
    (l.recovered ext indexes).summary? (1 + i) = some (summaryOf ext (1 + i) records) := by
  unfold SegmentedRecovered.summary? Layout.recovered
  rw [find?_summariesOf, h]
  rfl

theorem length_segmentFile_of_isPrefix {records records' : List EventRecord} (h : records <+: records') :
    (segmentFile ext records).length ≤ (segmentFile ext records').length := by
  obtain ⟨rest, rfl⟩ := h
  rw [length_segmentFile, length_segmentFile, map_append, sum_append]
  omega

theorem validateIndexSegment_eq_ok (h : l.Grows l') (hget : l.segments[i]? = some records) :
    validateIndexSegment (l'.recovered ext indexes) i (segmentOf (summaryOf ext (1 + i) records))
      = .ok () := by
  obtain ⟨records', hget', hpre⟩ := h.segment_isPrefix hget
  have hrecords := hpre.length_le
  have hbytes := @length_segmentFile_of_isPrefix ext _ _ hpre
  have hid : (segmentOf (summaryOf ext (1 + i) records)).id = 1 + i := rfl
  unfold validateIndexSegment
  rw [hid, if_neg (by omega), summary?_recovered hget']
  apply if_neg
  simp only [segmentOf, summaryOf]
  omega

theorem validateIndexSegments_eq_ok {segments : List IndexManifestSegment}
    (h : ∀ i segment, segments[i]? = some segment →
      validateIndexSegment recovered (position + i) segment = .ok ()) :
    validateIndexSegments recovered position segments = .ok () := by
  induction segments generalizing position with
  | nil => rfl
  | cons segment segments ih =>
    rw [validateIndexSegments]
    have hfirst := h 0 segment rfl
    rw [Nat.add_zero] at hfirst
    rw [hfirst, ok_bind]
    apply ih
    intro i other hother
    have hid : position + 1 + i = position + (i + 1) := by omega
    rw [hid]
    exact h (i + 1) other hother

def tally (locations : List SegmentLocation) (id : Nat) : Nat × Nat :=
  ((locations.filter (·.segmentId == id)).length,
    ((locations.filter (·.segmentId == id)).map (·.byteLen)).sum)

theorem tally_append {id : Nat} :
    tally (locations ++ locations') id
      =
    ((tally locations id).1 + (tally locations' id).1,
      (tally locations id).2 + (tally locations' id).2) := by
  simp [tally]

theorem tally_singleton (location : SegmentLocation) (id : Nat) :
    tally [location] id = if id = location.segmentId then (1, location.byteLen) else (0, 0) := by
  by_cases h : id = location.segmentId
  . simp [tally, h]
  . simp [tally, h, Ne.symm h]

theorem tally_eq_zero {locations : List SegmentLocation} {id : Nat}
    (h : ∀ location ∈ locations, location.segmentId ≠ id) : tally locations id = (0, 0) := by
  have hfilter : locations.filter (·.segmentId == id) = [] := by
    rw [filter_eq_nil_iff]
    intro location hmem
    simpa using h location hmem
  simp [tally, hfilter]

theorem tally_le (locations : List SegmentLocation) (id : Nat) :
    (tally locations id).1 ≤ locations.length
    ∧ (tally locations id).2 ≤ (locations.map (·.byteLen)).sum := by
  induction locations with
  | nil => simp [tally]
  | cons location locations ih =>
    unfold tally at ih ⊢
    by_cases h : (location.segmentId == id) = true
    . simp only [filter_cons, h, if_true, length_cons, map_cons, sum_cons]
      omega
    . simp only [filter_cons, h, length_cons, map_cons, sum_cons]
      simp only [Bool.false_eq_true, if_false]
      omega

def count (perSegment : HashMap Nat (Nat × Nat)) (location : SegmentLocation) :
    HashMap Nat (Nat × Nat) :=
  perSegment.insert location.segmentId ((HashMap.getD perSegment location.segmentId (0, 0)).1 + 1,
    (HashMap.getD perSegment location.segmentId (0, 0)).2 + location.byteLen)

theorem tally_count (h : ∀ id, HashMap.getD perSegment id (0, 0) = tally locations id)
    (location : SegmentLocation) (id : Nat) :
    HashMap.getD (count perSegment location) id (0, 0) = tally (locations ++ [location]) id := by
  unfold count
  rw [HashMap.getD_insert, h, h, tally_append, tally_singleton]
  split
  next heq => rw [heq]
  next => rfl

structure EntryFits (config : SegmentedEventStoreConfig) (recovered : SegmentedRecovered)
    (segments : List IndexManifestSegment) (position : Nat) (entry : IndexManifestEntry) : Prop where
  scope : validateScope entry.scope config.limits = .ok ()
  eventId : validateId "event index event_id" entry.eventId config.limits.maxIdBytes = .ok ()
  storeSeq : entry.location.storeSeq = position
  lookup : recovered.locations.lookup ⟨entry.scope, entry.eventId⟩ = some entry.location
  record : ∃ record, recovered.records[position]? = some record
    ∧ record.scope = entry.scope ∧ record.eventId = entry.eventId
  listed : segments.any (·.id == entry.location.segmentId) = true
  range : ∃ actual, recovered.summary? entry.location.segmentId = some actual
    ∧ 0 < entry.location.byteLen
    ∧ entry.location.offset + entry.location.byteLen ≤ actual.byteCount
    ∧ entry.location.offset + entry.location.byteLen < 2 ^ 64

theorem EntryFits.validateIndexEntry_eq_ok {segments : List IndexManifestSegment}
    {entry : IndexManifestEntry} (h : EntryFits config recovered segments position entry)
    (htally : ∀ id, HashMap.getD perSegment id (0, 0) = tally locations id)
    (hlength : locations.length + 1 < 2 ^ 64)
    (hbytes : (locations.map (·.byteLen)).sum + entry.location.byteLen < 2 ^ 64) :
    validateIndexEntry config recovered segments perSegment position entry
      = .ok (count perSegment entry.location) := by
  obtain ⟨record, hrecord, hscope, hevent⟩ := h.record
  obtain ⟨actual, hactual, hpos, hend, hlt⟩ := h.range
  have hle := tally_le locations entry.location.segmentId
  rw [← htally] at hle
  unfold validateIndexEntry
  rw [h.scope, h.eventId]
  simp only [ok_bind]
  rw [if_neg (not_not.mpr h.storeSeq), h.lookup]
  simp only [ne_eq, not_true_eq_false, if_false]
  rw [hrecord]
  simp only
  rw [if_neg (by simp [hscope, hevent]), if_neg (by simp [h.listed]), hactual]
  simp only
  rw [checkedAdd_eq_some.mpr ⟨rfl, hlt⟩, if_neg (by simp; omega)]
  rw [checkedAdd_eq_some.mpr ⟨rfl, by omega⟩]
  simp only
  rw [checkedAdd_eq_some.mpr ⟨rfl, by omega⟩]
  rfl

theorem validateIndexEntries_eq_ok {recovered : SegmentedRecovered}
    {segments : List IndexManifestSegment} {done entries : List IndexManifestEntry}
    {perSegment : HashMap Nat (Nat × Nat)}
    (htally : ∀ id, HashMap.getD perSegment id (0, 0) = tally (done.map (·.location)) id)
    (hfits : ∀ i entry, (done ++ entries)[i]? = some entry → EntryFits config recovered segments i entry)
    (hlength : (done ++ entries).length < 2 ^ 64)
    (hbytes : ((done ++ entries).map (·.location.byteLen)).sum < 2 ^ 64) :
    ∃ perSegment', validateIndexEntries config recovered segments perSegment done.length entries
        = .ok perSegment'
      ∧ ∀ id, HashMap.getD perSegment' id (0, 0) = tally ((done ++ entries).map (·.location)) id := by
  induction entries generalizing done perSegment with
  | nil =>
    rw [append_nil]
    exact ⟨perSegment, rfl, htally⟩
  | cons entry entries ih =>
    have hsplit : done ++ entry :: entries = (done ++ [entry]) ++ entries := by simp
    have hentry := hfits done.length entry (by simp)
    have hbytes' : ((done.map (·.location)).map (·.byteLen)).sum + entry.location.byteLen < 2 ^ 64 := by
      simp only [map_append, map_cons, sum_append, sum_cons] at hbytes
      rw [map_map]
      change (done.map (·.location.byteLen)).sum + _ < _
      omega
    rw [validateIndexEntries, hentry.validateIndexEntry_eq_ok htally (by simp at hlength ⊢; omega)
      hbytes', ok_bind]
    rw [hsplit] at hfits hlength hbytes ⊢
    have hresult := @ih (done ++ [entry]) (count perSegment entry.location)
      (by simpa using tally_count htally entry.location) hfits hlength hbytes
    rw [length_append, length_singleton] at hresult
    exact hresult

theorem tally_locateSegment (id offset : Nat) (records : List EventRecord) :
    tally ((locateSegment ext id offset records).map (·.2)) id
      =
    (records.length, (segmentFile ext records).length) := by
  induction records generalizing offset with
  | nil => rfl
  | cons record records ih =>
    have hcons : (locateSegment ext id offset (record :: records)).map (·.2)
        = [(⟨id, offset, (encodeRecord ext record).length + 1, record.storeSeq⟩ : SegmentLocation)]
          ++ (locateSegment ext id (offset + ((encodeRecord ext record).length + 1)) records).map (·.2) := rfl
    rw [hcons, tally_append, tally_singleton, ih, if_pos rfl, length_segmentFile, length_segmentFile,
      map_cons, sum_cons, length_cons, Nat.add_comm records.length 1]

theorem tally_locateSegments {id : Nat} (h : layout[i]? = some records) :
    tally ((locateSegments ext id layout).map (·.2)) (id + i)
      =
    (records.length, (segmentFile ext records).length) := by
  induction layout generalizing id i with
  | nil => simp at h
  | cons first layout ih =>
    rw [locateSegments, map_append, tally_append]
    cases i with
    | zero =>
      simp only [List.getElem?_cons_zero, Option.some.injEq] at h
      rw [Nat.add_zero, tally_locateSegment, h, tally_eq_zero]
      . rfl
      . intro location hlocation
        obtain ⟨⟨record, _⟩, hmem, rfl⟩ := mem_map.mp hlocation
        obtain ⟨_, _, _, hid, _⟩ := addresses_of_mem_locateSegments hmem
        simp only at hid ⊢
        omega
    | succ i =>
      rw [List.getElem?_cons_succ] at h
      have hid : id + (i + 1) = id + 1 + i := by omega
      rw [hid, ih h, tally_eq_zero]
      . simp
      . intro location hlocation
        obtain ⟨⟨record, _⟩, hmem, rfl⟩ := mem_map.mp hlocation
        have := (addresses_of_mem_locateSegment [] hmem).1
        simp only at this ⊢
        omega

theorem validateId_label {label : String} (h : validateId label value bound = .ok ()) :
    validateId label' value bound = .ok () := by
  unfold validateId at h ⊢
  split_ifs at h with hvalue
  rw [if_neg hvalue]

theorem Written.entryFits (hlimits : config.limits.validate = .ok ())
    (h : Written ext config indexes l') (hgrows : l.Grows l') {entry : IndexManifestEntry}
    (hentry : (l.indexManifest ext).entries[i]? = some entry) :
    EntryFits config (l'.recovered ext indexes) (l.indexManifest ext).segments i entry := by
  simp only [Layout.indexManifest, List.getElem?_map, Option.map_eq_some_iff] at hentry
  obtain ⟨⟨record, location⟩, hget, rfl⟩ := hentry
  have hlocated : (record, location) ∈ l.located ext := mem_of_getElem? hget
  have hget' : (l'.located ext)[i]? = some (record, location) := by
    obtain ⟨rest, hrest⟩ := @Layout.Grows.located_isPrefix ext _ _ hgrows
    rw [← hrest, List.getElem?_append_left (List.getElem?_eq_some_iff.mp hget).1]
    exact hget
  have hlocated' : (record, location) ∈ l'.located ext := mem_of_getElem? hget'
  have hrecord : indexes.records[i]? = some record := by
    rw [h.records_eq, ← @Layout.map_fst_located ext l', List.getElem?_map, hget']
    rfl
  have hvalid := (validateRecord_eq_ok ext).mp
    (h.logged.replayed.valid_of_mem (mem_of_getElem? hrecord)).1
  obtain ⟨j, grown, hsegment, hid, _, haddresses⟩ := addresses_of_mem_locateSegments hlocated'
  obtain ⟨k, segment, hsegment', hid', _, _⟩ := addresses_of_mem_locateSegments hlocated
  have hsummary : (summariesOf ext 1 l.segments)[k]? = some (summaryOf ext (1 + k) segment) := by
    rw [getElem?_summariesOf, hsegment']
    rfl
  obtain ⟨_, _, hoffset, hlength, _⟩ := h.location_bounds hlimits hlocated'
  have hbytes := (h.bounds hlimits).2
  have hfile := (@length_segmentFile_le ext _ _ (mem_of_getElem? hsegment)).1
  have hend := haddresses.end_le
  exact {
    scope := hvalid.scope
    eventId := validateId_label hvalid.eventId
    storeSeq := by
      change location.storeSeq = i
      obtain ⟨hi, hgetElem⟩ := List.getElem?_eq_some_iff.mp hrecord
      have hsplit : indexes.records = indexes.records.take i ++ record :: indexes.records.drop (i + 1) := by
        rw [← hgetElem, getElem_cons_drop, take_append_drop]
      rw [haddresses.storeSeq_eq, (h.logged.replayed.continues hsplit).storeSeq_eq, length_take]
      omega
    lookup := h.lookup_locations.mpr ⟨record, hlocated', rfl⟩
    record := ⟨record, hrecord, rfl, rfl⟩
    listed := by
      rw [any_eq_true]
      refine ⟨_, mem_map_of_mem (mem_of_getElem? hsummary), ?_⟩
      change (1 + k == location.segmentId) = true
      rw [hid', beq_self_eq_true]
    range := by
      refine ⟨summaryOf ext (1 + j) grown, ?_, ?_, hend, ?_⟩
      . change (l'.recovered ext indexes).summary? location.segmentId = _
        rw [hid]
        exact summary?_recovered hsegment
      . change 0 < location.byteLen
        rw [haddresses.byteLen_eq]
        omega
      . change location.offset + location.byteLen < 2 ^ 64
        omega
  }

theorem sum_byteLen_located (l : Layout) :
    ((l.indexManifest ext).entries.map (·.location.byteLen)).sum
      =
    (segmentFile ext l.segments.flatten).length := by
  rw [length_segmentFile, ← @Layout.map_fst_located ext l]
  simp only [Layout.indexManifest, map_map]
  congr 1
  apply map_congr_left
  rintro ⟨record, location⟩ hmem
  obtain ⟨_, _, _, _, _, haddresses⟩ := addresses_of_mem_locateSegments hmem
  exact haddresses.byteLen_eq

theorem Written.validateIndexManifest_eq_ok (hlimits : config.limits.validate = .ok ())
    (h : Written ext config indexes l) (h' : Written ext config indexes' l') (hgrows : l.Grows l') :
    validateIndexManifest config (l.indexManifest ext) (l'.recovered ext indexes') = .ok () := by
  have hpre : l.segments.flatten <+: indexes'.records := by
    rw [h'.records_eq]
    exact hgrows.records_isPrefix ext
  obtain ⟨hrecordBound, hbyteBound⟩ := h.bounds hlimits
  have hlength := hpre.length_le
  have hcount := hgrows.length_le
  have hentries : (l.indexManifest ext).entries.length = l.segments.flatten.length := by
    rw [← @Layout.map_fst_located ext l]
    simp [Layout.indexManifest]
  have hsegments : validateIndexSegments (l'.recovered ext indexes') 0 (l.indexManifest ext).segments
      = .ok () := by
    apply validateIndexSegments_eq_ok
    intro i segment hsegment
    simp only [Layout.indexManifest, List.getElem?_map, getElem?_summariesOf, Option.map_map,
      Option.map_eq_some_iff] at hsegment
    obtain ⟨records, hrecords, rfl⟩ := hsegment
    rw [Nat.zero_add]
    exact validateIndexSegment_eq_ok hgrows hrecords
  obtain ⟨perSegment, hvalidate, htally⟩ := @validateIndexEntries_eq_ok config
    (l'.recovered ext indexes') (l.indexManifest ext).segments [] (l.indexManifest ext).entries ∅
    (fun _ => rfl) (fun i entry hentry => h'.entryFits hlimits hgrows hentry)
    (by rw [nil_append, hentries]; omega)
    (by rw [nil_append, sum_byteLen_located]; omega)
  have hany : (l.indexManifest ext).segments.any (fun segment =>
      HashMap.getD perSegment segment.id (0, 0) != (segment.recordCount, segment.byteCount)) = false := by
    rw [any_eq_false]
    intro segment hsegment
    obtain ⟨summary, hsummary, rfl⟩ := mem_map.mp hsegment
    obtain ⟨i, records, hrecords, rfl⟩ := exists_of_mem_summariesOf hsummary
    have hid : (segmentOf (summaryOf ext (1 + i) records)).id = 1 + i := rfl
    rw [htally, hid, nil_append]
    change ¬(tally (((l.located ext).map entryOf).map (·.location)) (1 + i)
      != (records.length, (segmentFile ext records).length)) = true
    rw [map_map]
    change ¬(tally ((locateSegments ext 1 l.segments).map (·.2)) (1 + i) != _) = true
    rw [tally_locateSegments hrecords]
    simp
  unfold validateIndexManifest
  rw [if_neg (by simp [Layout.indexManifest]), if_neg, if_neg (by rw [hentries]; simp [Layout.indexManifest])]
  . change (requireSha256 (Replayed.lastDigest l.segments.flatten) _ >>= fun _ =>
      recoveredPrefixMetadata _ l.segments.flatten.length >>= _) = _
    rw [h.length_lastDigest, ok_bind, h'.recoveredPrefixMetadata_eq hlimits hpre,
      ok_bind]
    simp only
    rw [if_neg (by simp [Layout.indexManifest]), if_neg, if_neg, hsegments, ok_bind]
    . change validateIndexEntries config _ _ _ 0 _ = _ at hvalidate
      rw [hvalidate, ok_bind, hany]
      rfl
    . simp only [Layout.indexManifest, length_map, length_summariesOf, Layout.recovered]
      omega
    . have hpos : 0 < (l.indexManifest ext).segments.length := by
        simp [Layout.indexManifest, length_summariesOf, Layout.segments]
      intro hnil
      rw [hnil] at hpos
      cases hpos
  . change ¬l.segments.flatten.length > indexes'.records.length
    omega

end Index

section Snapshot

theorem EventRecord.beq_self (record : EventRecord) : (record == record) = true := by
  change EventRecord.beq record record = true
  unfold EventRecord.beq
  simp [Document.beq_self]

instance : ReflBEq EventRecord := ⟨fun {record} => EventRecord.beq_self record⟩

theorem validateSnapshotRecords_eq_ok
    (h : ∀ i record, records[i]? = some record → validateRecord ext record config.limits = .ok ()
      ∧ recovered.records[position + i]? = some record) :
    validateSnapshotRecords ext config recovered position records = .ok () := by
  induction records generalizing position with
  | nil => rfl
  | cons record records ih =>
    obtain ⟨hvalid, hget⟩ := h 0 record rfl
    rw [Nat.add_zero] at hget
    rw [validateSnapshotRecords, hvalid, ok_bind, hget]
    rw [if_neg (by simp)]
    apply ih
    intro i other hother
    have hid : position + 1 + i = position + (i + 1) := by omega
    rw [hid]
    exact h (i + 1) other hother

theorem Written.validateSnapshotManifest_eq_ok (hlimits : config.limits.validate = .ok ())
    (h : Written ext config indexes l) (h' : Written ext config indexes' l') (hgrows : l.Grows l') :
    validateSnapshotManifest ext config (snapshotOf ext l.segments.flatten) (l'.recovered ext indexes')
      = .ok () := by
  have hpre : l.segments.flatten <+: indexes'.records := by
    rw [h'.records_eq]
    exact hgrows.records_isPrefix ext
  have hlength := hpre.length_le
  unfold validateSnapshotManifest
  rw [if_neg (by simp [snapshotOf]), if_neg (by simp [snapshotOf]), if_neg]
  . change (requireSha256 (Replayed.lastDigest l.segments.flatten) _ >>= fun _ =>
      recoveredPrefixMetadata _ l.segments.flatten.length >>= _) = _
    rw [h.length_lastDigest, ok_bind, h'.recoveredPrefixMetadata_eq hlimits hpre,
      ok_bind]
    simp only
    rw [if_neg (by simp [snapshotOf])]
    apply validateSnapshotRecords_eq_ok
    intro i record hrecord
    change l.segments.flatten[i]? = some record at hrecord
    have hget : indexes'.records[i]? = some record := by
      obtain ⟨rest, hrest⟩ := hpre
      rw [← hrest, List.getElem?_append_left (List.getElem?_eq_some_iff.mp hrecord).1]
      exact hrecord
    refine ⟨(h'.logged.replayed.valid_of_mem (mem_of_getElem? hget)).1, ?_⟩
    rw [Nat.zero_add]
    exact hget
  . change ¬l.segments.flatten.length > indexes'.records.length
    omega

end Snapshot

section Sidecars

def indexFile (ext : Externals) (l : Layout) : Bytes :=
  write ext.float (l.indexManifest ext).toValue ++ [10]

def snapshotFile (ext : Externals) (records : List EventRecord) : Bytes :=
  write ext.float (snapshotOf ext records).toValue ++ [10]

def WrittenBefore (ext : Externals) (config : SegmentedEventStoreConfig) (l' l : Layout) : Prop :=
  (∃ indexes, Written ext config indexes l) ∧ l.Grows l'

theorem WrittenBefore.grows (h : WrittenBefore ext config l' l) (hgrows : l'.Grows l'') :
    WrittenBefore ext config l'' l := ⟨h.1, h.2.trans hgrows⟩

section

variable (hlimits : config.limits.validate = .ok ()) (h' : Written ext config indexes l') (h : WrittenBefore ext config l' l)
include hlimits h' h

theorem validateIndexSidecar_eq_ok :
    validateIndexSidecar ext config (some (indexFile ext l)) (l'.recovered ext indexes) = .ok () := by
  obtain ⟨⟨before, hbefore⟩, hgrows⟩ := h
  have hsize := hbefore.length_index_le hlimits
  have hdepth : (l.indexManifest ext).toValue.depth < recursionLimit := by
    have := (l.indexManifest ext).depth_toValue
    have hlimit : recursionLimit = 128 := rfl
    omega
  obtain ⟨d, hread, hof⟩ := @IndexManifest.readsAs ext.float _ (hbefore.fits hlimits)
  have hdecode := decode_write IndexManifest.ofDocument [10] (by decide) hdepth hread
  unfold validateIndexSidecar readSidecar indexFile
  simp only
  rw [if_neg (by omega)]
  simp only [ok_bind]
  unfold decodeSidecar
  rw [hdecode, hof]
  simp only [ok_bind]
  exact hbefore.validateIndexManifest_eq_ok hlimits h' hgrows

theorem validateSnapshotSidecar_eq_ok
    (hfloats : ∀ record ∈ l.segments.flatten, FloatsReadBack ext.float record.payload.value)
    (hdepth : ∀ record ∈ l.segments.flatten, record.payload.value.depth ≤ maxSnapshotDepth) :
    validateSnapshotSidecar ext config (some (snapshotFile ext l.segments.flatten))
      (l'.recovered ext indexes) = .ok () := by
  obtain ⟨⟨before, hbefore⟩, hgrows⟩ := h
  have hsize := hbefore.length_snapshot_le hlimits
  have hbounds := hbefore.bounds hlimits
  have hrecords : ∀ record ∈ (snapshotOf ext l.segments.flatten).records, record.storeSeq < 2 ^ 64
      ∧ record.turnSeq < 2 ^ 64 ∧ FloatsReadBack ext.float record.payload.value := by
    intro record hrecord
    change record ∈ l.segments.flatten at hrecord
    have hmem := hrecord
    rw [← hbefore.records_eq] at hmem
    obtain ⟨_, hstore, hturn⟩ := hbefore.logged.replayed.valid_of_mem hmem
    obtain ⟨_, ⟨_, _, hmax, _⟩, _⟩ := EventStoreLimits.validate_eq_ok hlimits
    have hmaxRecords : maxEventRecords = 1048576 := rfl
    exact ⟨by omega, hturn, hfloats record hrecord⟩
  obtain ⟨d, hread, hof⟩ := @SnapshotManifest.readsAs ext.float (snapshotOf ext l.segments.flatten)
    (by change l.segments.flatten.length < _; omega)
    (by change (segmentFile ext l.segments.flatten).length < _; omega) hrecords
  have hdecode := decode_write ofDocument [10] (by decide)
    ((depth_lt_iff _).mpr hdepth) hread
  unfold validateSnapshotSidecar readSidecar snapshotFile
  simp only
  rw [if_neg (by omega)]
  simp only [ok_bind]
  unfold decodeSidecar
  rw [hdecode, hof]
  simp only [ok_bind]
  exact hbefore.validateSnapshotManifest_eq_ok hlimits h' hgrows

end

theorem validateSnapshotSidecar_error {records : List EventRecord} {record : EventRecord}
    (hmem : record ∈ records) (hdepth : maxSnapshotDepth < record.payload.value.depth)
    (recovered : SegmentedRecovered) :
    ∃ e, validateSnapshotSidecar ext config (some (snapshotFile ext records)) recovered = .error e := by
  have hlimit : recursionLimit ≤ (snapshotOf ext records).toValue.depth := by
    by_contra hlt
    rw [not_le, depth_lt_iff] at hlt
    have := hlt record hmem
    omega
  have hdecode := decode_write_of_too_deep ext.float ofDocument [10] (by decide) hlimit
  unfold validateSnapshotSidecar readSidecar
  simp only
  split_ifs
  . exact ⟨_, rfl⟩
  . simp only [ok_bind]
    unfold decodeSidecar
    change (decode ext.float ofDocument (snapshotFile ext records)).toOption = none
      at hdecode
    cases hresult : decode ext.float ofDocument (snapshotFile ext records) with
    | error e => exact ⟨_, rfl⟩
    | ok manifest =>
      rw [hresult] at hdecode
      cases hdecode

end Sidecars

end EventStore
