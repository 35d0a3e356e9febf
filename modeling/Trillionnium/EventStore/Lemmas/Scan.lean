import Trillionnium.EventStore.Lemmas.Segmented

/-!
Scanning the segments of a store yields its indexes. A line that has been cut off at the end of the
last segment is the only thing that the two recovery policies treat differently.
-/

namespace EventStore

open Json Except

variable {limits : EventStoreLimits} {id : Nat}

variable {ext : Externals} {config : SegmentedEventStoreConfig}

section ReadLine

theorem readSegmentLine_line (h : limits.validate = .ok ()) (hline : IsLine limits line) :
    Log.ReadsLine (readSegmentLine limits.maxRecordBytes)
      (fun line => (line, line.length + 1, true)) line := by
  intro rest
  have hlength := hline.length_le
  unfold readSegmentLine
  rw [readAheadLimit_eq h, ok_bind]
  rw [Log.readUntil_frame hline.lineFeed_not_mem (by omega)]
  simp only [Log.dropLast_frame, Log.length_frame]
  rw [if_neg Log.frame_ne_nil, if_neg (by simp)]
  rw [if_neg (by simp [hline.ne_nil, hlength])]
  rfl

theorem readSegmentLine_nil (h : limits.validate = .ok ()) :
    readSegmentLine limits.maxRecordBytes [] = .ok (none, []) := by
  unfold readSegmentLine
  rw [readAheadLimit_eq h, ok_bind]
  simp [Log.readUntil]

structure IsTorn (limits : EventStoreLimits) (tail : Bytes) : Prop where
  ne_nil : tail ≠ []
  lineFeed_not_mem : 10 ∉ tail
  length_le : tail.length ≤ limits.maxRecordBytes

theorem readSegmentLine_torn (h : limits.validate = .ok ()) (htail : IsTorn limits tail) :
    readSegmentLine limits.maxRecordBytes tail = .ok (some (tail, tail.length, false), []) := by
  have hlength := htail.length_le
  have hlast : tail.getLast? ≠ some 10 := by
    intro hlast
    exact htail.lineFeed_not_mem (List.mem_of_getLast? hlast)
  unfold readSegmentLine
  rw [readAheadLimit_eq h, ok_bind]
  rw [Log.readUntil_tail htail.lineFeed_not_mem (by omega)]
  simp only
  rw [if_neg htail.ne_nil, if_pos hlast, if_neg (by omega)]
  rfl

end ReadLine

section Segment

variable (ext config)

def replayLines (id : Nat) (lines : List Bytes) (scan : SegmentScan) : Except EventStoreError SegmentScan :=
  lines.foldlM (fun scan line => replaySegmentLine ext config id scan line (line.length + 1)) scan

variable {ext config}

variable {scan : SegmentScan} {lines : List Bytes} {indexes : Indexes}

theorem replaySegmentLine_eq_ok (h : replaySegmentLine ext config id scan line consumed = .ok scan') :
    scan'.offset = scan.offset + consumed
    ∧ scan'.segmentRecords = scan.segmentRecords + 1
    ∧ scan'.truncated = false := by
  unfold replaySegmentLine at h
  rw [bind_eq_ok] at h
  obtain ⟨_, _, h⟩ := h
  cases h
  exact ⟨rfl, rfl, rfl⟩

theorem replayLines_eq_ok (hscan : scan.truncated = false)
    (h : replayLines ext config id lines scan = .ok scan') :
    scan'.offset = scan.offset + (Log.frames lines).length
    ∧ scan'.segmentRecords = scan.segmentRecords + lines.length
    ∧ scan'.truncated = false := by
  induction lines generalizing scan with
  | nil =>
    cases h
    exact ⟨rfl, rfl, hscan⟩
  | cons line lines ih =>
    unfold replayLines at h
    rw [List.foldlM_cons, bind_eq_ok] at h
    obtain ⟨next, hnext, h⟩ := h
    obtain ⟨hoffset, hrecords, htruncated⟩ := replaySegmentLine_eq_ok hnext
    obtain ⟨hoffset', hrecords', htruncated'⟩ := ih htruncated h
    refine ⟨?_, ?_, htruncated'⟩
    . rw [hoffset', hoffset, Log.frames_cons, List.length_append, List.length_cons]
      omega
    . rw [hrecords', hrecords, List.length_cons]
      omega

theorem whileLet_segment (ext : Externals) (hlimits : config.limits.validate = .ok ())
    (hlines : ∀ line ∈ lines, IsLine config.limits line) (id : Nat) (isLast : Bool) (tail : Bytes)
    (scan : SegmentScan) :
    Log.whileLet (readSegmentLine config.limits.maxRecordBytes) (scanSegmentLine ext config id isLast)
      ((Log.frames lines ++ tail).length + 1) (Log.frames lines ++ tail) scan
      =
    (replayLines ext config id lines scan >>=
      Log.whileLet (readSegmentLine config.limits.maxRecordBytes)
        (scanSegmentLine ext config id isLast)
        ((Log.frames lines ++ tail).length - lines.length + 1) tail) := by
  have hfuel : (Log.frames lines ++ tail).length + 1
      = lines.length + ((Log.frames lines ++ tail).length - lines.length + 1) := by
    have := Log.length_le_frames lines
    rw [List.length_append]
    omega
  rw [hfuel]
  exact Log.whileLet_frames (scanSegmentLine ext config id isLast)
    (fun scan line => replaySegmentLine ext config id scan line (line.length + 1))
    (fun line hline => readSegmentLine_line hlimits (hlines line hline)) (fun _ _ _ => rfl) tail _ scan

section

variable (hlimits : config.limits.validate = .ok ()) (hlines : ∀ line ∈ lines, IsLine config.limits line)
include hlimits hlines

theorem scanSegment_lines (isLast : Bool) (segment : OpenSegment)
    (hfile : segment.file = Log.frames lines)
    (hscan : replayLines ext config segment.id lines (.start indexes) = .ok scan) :
    scanSegment ext config isLast segment indexes
      =
    .ok (scan.indexes, {
      id := segment.id
      path := segment.path
      file := Log.frames lines
      byteCount := (Log.frames lines).length
      recordCount := lines.length }) := by
  obtain ⟨hoffset, hrecords, htruncated⟩ := replayLines_eq_ok rfl hscan
  have hloop := whileLet_segment ext hlimits hlines segment.id isLast [] (.start indexes)
  rw [hscan, ok_bind, Log.whileLet_none (readSegmentLine_nil hlimits)] at hloop
  rw [List.append_nil] at hloop
  unfold scanSegment
  rw [hfile, hloop, ok_bind]
  simp [SegmentScan.start, htruncated, hoffset, hrecords]

theorem scanSegment_torn (htail : IsTorn config.limits tail)
    (segment : OpenSegment) (hfile : segment.file = Log.frames lines ++ tail)
    (hscan : replayLines ext config segment.id lines (.start indexes) = .ok scan) :
    scanSegment ext config true segment indexes
      =
    if config.recovery = .repairTrailingPartial then
      .ok (scan.indexes, {
        id := segment.id
        path := segment.path
        file := Log.frames lines
        byteCount := (Log.frames lines).length
        recordCount := lines.length })
    else
      .error .truncatedRecord := by
  obtain ⟨hoffset, hrecords, htruncated⟩ := replayLines_eq_ok rfl hscan
  have hloop := whileLet_segment ext hlimits hlines segment.id true tail (.start indexes)
  rw [hscan, ok_bind, Log.whileLet_some (readSegmentLine_torn hlimits htail)] at hloop
  unfold scanSegment
  rw [hfile, hloop]
  unfold scanSegmentLine
  by_cases hpolicy : config.recovery = .repairTrailingPartial
  . simp [SegmentScan.start, hpolicy, hoffset, hrecords]
  . simp [hpolicy]

theorem scanSegment_error (tail : Bytes) (segment : OpenSegment)
    (hfile : segment.file = Log.frames lines ++ tail) {e : EventStoreError}
    (hscan : replayLines ext config segment.id lines (.start indexes) = .error e) :
    scanSegment ext config isLast segment indexes = .error e := by
  have hloop := whileLet_segment ext hlimits hlines segment.id isLast tail (.start indexes)
  rw [hscan, error_bind] at hloop
  unfold scanSegment
  rw [hfile, hloop, error_bind]

end

theorem replayLines_error {id : Nat} {record : EventRecord} {lines : List Bytes} {scan : SegmentScan}
    {e : Error} (hrecord : decodeRecord ext (encodeRecord ext record) = .error e)
    (hmem : encodeRecord ext record ∈ lines) :
    ∃ e, replayLines ext config id lines scan = .error e := by
  apply foldlM_error hmem
  intro scan
  obtain ⟨e, herror⟩ := @Recovered.replayLine_eq_error ext config.limits scan.indexes.toRecovered record
    "store sequence is not contiguous across segments" (scan.segmentRecords ≥ config.maxSegmentRecords)
    ((encodeRecord ext record).length + 1) _ hrecord
  refine ⟨e, ?_⟩
  unfold replaySegmentLine
  dsimp only
  rw [herror]
  rfl

end Segment

section Layout

variable (ext config)

def openSegment (id : Nat) (file : Bytes) : OpenSegment :=
  { id := id, path := segmentFileName id, file := file }

def openLayout : Nat → List (List EventRecord) → List OpenSegment
  | _, [] => []
  | id, records :: layout => openSegment id (segmentFile ext records) :: openLayout (id + 1) layout

def summaryOf (id : Nat) (records : List EventRecord) : SegmentSummary where
  id := id
  path := segmentFileName id
  file := segmentFile ext records
  byteCount := (segmentFile ext records).length
  recordCount := records.length

def summariesOf : Nat → List (List EventRecord) → List SegmentSummary
  | _, [] => []
  | id, records :: layout => summaryOf ext id records :: summariesOf (id + 1) layout

def replayRecords (id : Nat) (records : List EventRecord) (indexes : Indexes) :
    Except EventStoreError SegmentScan :=
  replayLines ext config id (records.map (encodeRecord ext)) (.start indexes)

def replayCompleted : Nat → List (List EventRecord) → Indexes → Except EventStoreError Indexes
  | _, [], indexes => .ok indexes
  | id, records :: layout, indexes => do
    let scan ← replayRecords ext config id records indexes
    replayCompleted (id + 1) layout scan.indexes

variable {ext config}

theorem replayCompleted_append :
    replayCompleted ext config id (layout ++ layout') indexes
      =
    (replayCompleted ext config id layout indexes >>=
      replayCompleted ext config (id + layout.length) layout') := by
  induction layout generalizing id indexes with
  | nil => rfl
  | cons records layout ih =>
    rw [List.cons_append, replayCompleted, replayCompleted]
    cases replayRecords ext config id records indexes with
    | error e => rfl
    | ok scan =>
      simp only [ok_bind]
      rw [ih, List.length_cons]
      congr 2
      omega

def scanAt (indexes : Indexes) (l : Layout) : SegmentScan where
  indexes := indexes
  offset := (segmentFile ext l.active).length
  segmentRecords := l.active.length
  truncated := false

theorem Indexes.replaySegmentLine_admits {indexes : Indexes} {l : Layout}
    (hr : indexes.Admits ext config.limits r) (hread : Readable ext r.record)
    (hroom : l.active.length < config.maxSegmentRecords) :
    replaySegmentLine ext config l.activeId (@scanAt ext indexes l) (encodeRecord ext r.record)
        ((encodeRecord ext r.record).length + 1)
      =
    .ok (@scanAt ext (indexes.publishAt r l.activeId (segmentFile ext l.active).length)
      (l.push r.record)) := by
  have hlength : r.encoded.length = (encodeRecord ext r.record).length + 1 := by
    rw [hr.encoded_eq, Log.length_frame]
  have hline := hr.replayLine hread "store sequence is not contiguous across segments"
  rw [hlength] at hline
  have hfull : decide (l.active.length ≥ config.maxSegmentRecords) = false := by
    rw [decide_eq_false_iff_not]
    omega
  unfold replaySegmentLine scanAt
  simp only
  rw [hfull, hline, ok_bind]
  unfold Indexes.publishAt Layout.push
  simp only [segmentFile_append, List.length_append, Log.length_frame, hlength]
  rfl

theorem Written.replay (h : Written ext config indexes l)
    (hread : ∀ record ∈ indexes.records, Readable ext record) :
    ∃ before, replayCompleted ext config 1 l.completed Indexes.empty = .ok before
      ∧ replayRecords ext config l.activeId l.active before = .ok (@scanAt ext indexes l) := by
  induction h with
  | empty => exact ⟨Indexes.empty, rfl, rfl⟩
  | @rotate indexes l _ _ ih =>
    obtain ⟨before, hbefore, hactive⟩ := ih hread
    refine ⟨indexes, ?_, rfl⟩
    change replayCompleted ext config 1 (l.completed ++ [l.active]) Indexes.empty = _
    rw [replayCompleted_append, hbefore, ok_bind, replayCompleted, Nat.add_comm]
    change (replayRecords ext config l.activeId l.active before >>= _) = _
    rw [hactive]
    rfl
  | @publish indexes l r _ hr hroom ih =>
    obtain ⟨before, hbefore, hactive⟩ := ih (fun record hrecord => hread record (by
      simp [Indexes.publishAt, Recovered.publishReserved, Recovered.publish, hrecord]))
    refine ⟨before, hbefore, ?_⟩
    have hlast := Indexes.replaySegmentLine_admits hr (hread r.record (by
      simp [Indexes.publishAt, Recovered.publishReserved, Recovered.publish])) hroom
    change replayLines ext config l.activeId ((l.active ++ [r.record]).map (encodeRecord ext)) _ = _
    unfold replayRecords replayLines at hactive
    unfold replayLines
    rw [List.map_append, List.foldlM_append, hactive, ok_bind]
    simp only [List.map_cons, List.map_nil, List.foldlM_cons, List.foldlM_nil, hlast]
    rfl

theorem isLine_map {records : List EventRecord}
    (h : ∀ record ∈ records, IsLine limits (encodeRecord ext record)) :
    ∀ line ∈ records.map (encodeRecord ext), IsLine limits line := by
  intro line hline
  rw [List.mem_map] at hline
  obtain ⟨record, hrecord, rfl⟩ := hline
  exact h record hrecord

theorem scanSegment_openSegment (hlimits : config.limits.validate = .ok ())
    {records : List EventRecord}
    (hlines : ∀ record ∈ records, IsLine config.limits (encodeRecord ext record))
    (hscan : replayRecords ext config id records indexes = .ok scan) :
    scanSegment ext config isLast (openSegment id (segmentFile ext records)) indexes
      =
    .ok (scan.indexes, summaryOf ext id records) := by
  have hsegment := scanSegment_lines hlimits (isLine_map hlines) isLast
    (openSegment id (segmentFile ext records)) rfl hscan
  rw [hsegment, List.length_map]
  rfl

theorem scanSegments_openLayout (hlimits : config.limits.validate = .ok ())
    {layout : List (List EventRecord)}
    (hlines : ∀ record ∈ layout.flatten, IsLine config.limits (encodeRecord ext record)) :
    scanSegments ext config (openLayout ext id layout ++ rest) indexes summaries
      =
    (replayCompleted ext config id layout indexes >>= fun indexes =>
      scanSegments ext config rest indexes (summaries ++ summariesOf ext id layout)) := by
  induction layout generalizing id indexes summaries with
  | nil => simp [openLayout, summariesOf, replayCompleted]
  | cons records layout ih =>
    simp only [List.flatten_cons, List.mem_append] at hlines
    have hrecords : ∀ record ∈ records, IsLine config.limits (encodeRecord ext record) :=
      fun record hrecord => hlines record (.inl hrecord)
    rw [openLayout, List.cons_append, scanSegments, replayCompleted]
    cases hscan : replayRecords ext config id records indexes with
    | error e =>
      rw [scanSegment_error hlimits (isLine_map hrecords) [] (openSegment id (segmentFile ext records))
        (List.append_nil _).symm hscan]
      rfl
    | ok scan =>
      rw [scanSegment_openSegment hlimits hrecords hscan]
      simp only [ok_bind]
      rw [ih (fun record hrecord => hlines record (.inr hrecord)), summariesOf]
      simp

theorem replayCompleted_error {id : Nat} {layout : List (List EventRecord)} {record : EventRecord}
    {e : Error} (hmem : record ∈ layout.flatten)
    (hrecord : decodeRecord ext (encodeRecord ext record) = .error e) (indexes : Indexes) :
    ∃ e, replayCompleted ext config id layout indexes = .error e := by
  induction layout generalizing id indexes with
  | nil => cases hmem
  | cons records layout ih =>
    rw [replayCompleted]
    cases hscan : replayRecords ext config id records indexes with
    | error e => exact ⟨e, rfl⟩
    | ok scan =>
      rw [List.flatten_cons, List.mem_append] at hmem
      cases hmem with
      | inl hmem =>
        obtain ⟨e, herror⟩ := @replayLines_error ext config id record (records.map (encodeRecord ext))
          (.start indexes) _ hrecord (List.mem_map_of_mem hmem)
        unfold replayRecords at hscan
        rw [herror] at hscan
        cases hscan
      | inr hmem => exact ih hmem scan.indexes

theorem summariesOf_append :
    summariesOf ext id (layout ++ layout')
      =
    summariesOf ext id layout ++ summariesOf ext (id + layout.length) layout' := by
  induction layout generalizing id with
  | nil => simp [summariesOf]
  | cons records layout ih =>
    rw [List.cons_append, summariesOf, summariesOf, ih, List.length_cons, List.cons_append]
    congr 3
    omega

def Layout.open (ext : Externals) (l : Layout) (tail : Bytes) : List OpenSegment :=
  openLayout ext 1 l.completed ++ [openSegment l.activeId (segmentFile ext l.active ++ tail)]

def Layout.recovered (ext : Externals) (l : Layout) (indexes : Indexes) : SegmentedRecovered :=
  { indexes with segmentSummaries := summariesOf ext 1 l.segments }

theorem Layout.summaries_eq (l : Layout) :
    summariesOf ext 1 l.segments
      =
    summariesOf ext 1 l.completed ++ [summaryOf ext l.activeId l.active] := by
  unfold Layout.segments Layout.activeId
  rw [summariesOf_append, Nat.add_comm]
  rfl

namespace Written

variable {indexes : Indexes} {l : Layout}

theorem isLine (h : Written ext config indexes l) :
    ∀ record ∈ l.segments.flatten, IsLine config.limits (encodeRecord ext record) := by
  intro record hrecord
  rw [← h.records_eq] at hrecord
  exact h.logged.isLine _ (List.mem_map_of_mem hrecord)

section

variable (hlimits : config.limits.validate = .ok ()) (h : Written ext config indexes l)
include hlimits h

theorem recover (hread : ∀ record ∈ indexes.records, Readable ext record) :
    recoverSegmentedSegments ext config (l.open ext []) = .ok (l.recovered ext indexes) := by
  have hlines := h.isLine
  simp only [Layout.segments, List.flatten_append, List.mem_append] at hlines
  obtain ⟨before, hbefore, hactive⟩ := h.replay hread
  unfold recoverSegmentedSegments Layout.open
  rw [scanSegments_openLayout hlimits (fun record hrecord => hlines record (.inl hrecord)), hbefore,
    ok_bind, scanSegments, List.append_nil]
  rw [scanSegment_openSegment hlimits (fun record hrecord => hlines record (.inr (by simpa using hrecord))) hactive]
  simp only [ok_bind]
  rw [scanSegments, List.nil_append, ← Layout.summaries_eq]
  rfl

theorem recover_torn
    (hread : ∀ record ∈ indexes.records, Readable ext record) (htail : IsTorn config.limits tail) :
    recoverSegmentedSegments ext config (l.open ext tail)
      =
    if config.recovery = .repairTrailingPartial then
      .ok (l.recovered ext indexes)
    else
      .error .truncatedRecord := by
  have hlines := h.isLine
  simp only [Layout.segments, List.flatten_append, List.mem_append] at hlines
  obtain ⟨before, hbefore, hactive⟩ := h.replay hread
  have hactiveLines : ∀ line ∈ l.active.map (encodeRecord ext), IsLine config.limits line :=
    isLine_map (fun record hrecord => hlines record (.inr (by simpa using hrecord)))
  have htorn := scanSegment_torn hlimits hactiveLines htail
    (openSegment l.activeId (segmentFile ext l.active ++ tail)) rfl hactive
  unfold recoverSegmentedSegments Layout.open
  rw [scanSegments_openLayout hlimits (fun record hrecord => hlines record (.inl hrecord)), hbefore,
    ok_bind, scanSegments]
  change (scanSegment ext config true _ _ >>= _) = _
  rw [htorn]
  by_cases hpolicy : config.recovery = .repairTrailingPartial
  . rw [if_pos hpolicy, if_pos hpolicy]
    unfold Layout.recovered
    rw [Layout.summaries_eq]
    simp only [ok_bind, scanSegments, List.length_map]
    rfl
  . rw [if_neg hpolicy, if_neg hpolicy]
    rfl

theorem recover_error {record : EventRecord} {e : Error} (hmem : record ∈ indexes.records)
    (hrecord : decodeRecord ext (encodeRecord ext record) = .error e) (tail : Bytes) :
    ∃ e, recoverSegmentedSegments ext config (l.open ext tail) = .error e := by
  have hlines := h.isLine
  rw [h.records_eq] at hmem
  simp only [Layout.segments, List.flatten_append, List.flatten_cons, List.flatten_nil, List.append_nil,
    List.mem_append] at hlines hmem
  unfold recoverSegmentedSegments Layout.open
  rw [scanSegments_openLayout hlimits (fun record hrecord => hlines record (.inl hrecord))]
  cases hreplay : replayCompleted ext config 1 l.completed Indexes.empty with
  | error e => exact ⟨e, rfl⟩
  | ok before =>
    cases hmem with
    | inl hmem =>
      obtain ⟨e, herror⟩ := @replayCompleted_error ext config 1 _ _ _ hmem hrecord Indexes.empty
      rw [herror] at hreplay
      cases hreplay
    | inr hmem =>
      obtain ⟨e, herror⟩ := @replayLines_error ext config l.activeId record
        (l.active.map (encodeRecord ext)) (.start before) _ hrecord (List.mem_map_of_mem hmem)
      refine ⟨e, ?_⟩
      rw [ok_bind, scanSegments]
      rw [scanSegment_error hlimits (isLine_map (fun record hrecord => hlines record (.inr hrecord))) tail
        (openSegment l.activeId (segmentFile ext l.active ++ tail)) rfl herror]
      rfl

end

end Written

end Layout

end EventStore
