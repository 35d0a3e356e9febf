import Trillionnium.EventStore.Impl.Segmented

/-!
Opening a segmented store: the segments are found by their file names, scanned in order and compared
with the sidecars.
-/

namespace EventStore

open Json

abbrev Directory := List (String × Bytes)

def segmentIndexFile : String := "index.v2.json"

def segmentSnapshotFile : String := "snapshot.v2.json"

def segmentIndexTempFile : String := ".index.v2.json.tmp"

def segmentSnapshotTempFile : String := ".snapshot.v2.json.tmp"

def segmentLockFile : String := ".writer.lock"

section Discover

def stripPrefix (pre cs : List Char) : Option (List Char) :=
  if pre.isPrefixOf cs then some (cs.drop pre.length) else none

def stripSuffix (suffix cs : List Char) : Option (List Char) :=
  if suffix.isSuffixOf cs then some (cs.take (cs.length - suffix.length)) else none

def parseSegmentFileName (name : String) : Option Nat := do
  let body ← stripSuffix segmentFileSuffix.toList (← stripPrefix segmentFilePrefix.toList name.toList)
  if body = [] ∨ body.all Char.isDigit = false then
    none
  else
    let id := Nat.ofDigitChars 10 body 0
    if 0 < id ∧ id < 2 ^ 64 then some id else none

structure OpenSegment where
  id : Nat
  path : String
  file : Bytes

def collectSegments : List OpenSegment → Directory → Except EventStoreError (List OpenSegment)
  | found, [] => .ok found
  | found, (name, file) :: entries =>
    match parseSegmentFileName name with
    | some id =>
      if found.length ≥ maxEventSegments then
        .error .capacityExhausted
      else
        collectSegments (found ++ [{ id := id, path := name, file := file }]) entries
    | none =>
      if segmentFilePrefix.toList.isPrefixOf name.toList then
        .error (.invalidRecord s!"malformed segment filename: {name}")
      else
        collectSegments found entries

def contiguousFrom : Nat → List OpenSegment → Bool
  | _, [] => true
  | expected, segment :: segments => segment.id == expected && contiguousFrom (expected + 1) segments

def discoverSegments (directory : Directory) : Except EventStoreError (List OpenSegment) := do
  let found ← collectSegments [] directory
  let segments := found.insertionSort (fun a b => a.id ≤ b.id)
  if contiguousFrom 1 segments then
    return segments
  else
    .error (.invalidRecord "segment IDs are not contiguous")

end Discover

variable (ext : Externals) (config : SegmentedEventStoreConfig)

section Scan

def readSegmentLine (maximum : Nat) (input : Bytes) :
    Except EventStoreError (Option (Bytes × Nat × Bool) × Bytes) := do
  let readAhead ← readAheadLimit maximum
  let (line, rest) := Log.readUntil readAhead input
  let read := line.length
  if line = [] then
    return (none, rest)
  else if line.getLast? ≠ some 10 then
    if line.length > maximum then
      .error (.invalidRecord "event record is oversized")
    else
      return (some (line, read, false), rest)
  else
    let line := line.dropLast
    if line = [] ∨ line.length > maximum then
      .error (.invalidRecord "event record is empty or oversized")
    else
      return (some (line, read, true), rest)

structure SegmentScan where
  indexes : Indexes
  offset : Nat
  segmentRecords : Nat
  truncated : Bool

def SegmentScan.start (indexes : Indexes) : SegmentScan where
  indexes := indexes
  offset := 0
  segmentRecords := 0
  truncated := false

def replaySegmentLine (id : Nat) (scan : SegmentScan) (line : Bytes) (consumed : Nat) :
    Except EventStoreError SegmentScan := do
  let indexes := scan.indexes
  let (record, recovered) ← indexes.replayLine ext config.limits
    "store sequence is not contiguous across segments"
    (scan.segmentRecords ≥ config.maxSegmentRecords) line consumed
  return {
    indexes := {
      toRecovered := recovered
      byScope := indexes.byScope.insert record.scope
        (HashMap.getD indexes.byScope record.scope [] ++ [indexes.records.length])
      locations := indexes.locations.insert record.key {
        segmentId := id
        offset := scan.offset
        byteLen := consumed
        storeSeq := record.storeSeq
      }
    }
    offset := scan.offset + consumed
    segmentRecords := scan.segmentRecords + 1
    truncated := false
  }

def scanSegmentLine (id : Nat) (isLast : Bool) (scan : SegmentScan) (item : Bytes × Nat × Bool) :
    Except EventStoreError (ForInStep SegmentScan) :=
  let (line, consumed, terminated) := item
  if terminated then
    (replaySegmentLine ext config id scan line consumed).map .yield
  else if isLast = true ∧ config.recovery = .repairTrailingPartial then
    .ok (.done { scan with truncated := true })
  else
    .error .truncatedRecord

def scanSegment (isLast : Bool) (segment : OpenSegment) (indexes : Indexes) :
    Except EventStoreError (Indexes × SegmentSummary) := do
  let scan ← Log.whileLet (readSegmentLine config.limits.maxRecordBytes)
    (scanSegmentLine ext config segment.id isLast) (segment.file.length + 1) segment.file
    (.start indexes)
  let file := if scan.truncated then segment.file.take scan.offset else segment.file
  if file.length ≠ scan.offset then
    .error (.invalidRecord "segment length changed during recovery")
  else
    return (scan.indexes, {
      id := segment.id
      path := segment.path
      file := file
      byteCount := scan.offset
      recordCount := scan.segmentRecords
    })

def Indexes.empty : Indexes := { Recovered.empty with byScope := ∅, locations := ∅ }

def scanSegments : List OpenSegment → Indexes → List SegmentSummary →
    Except EventStoreError SegmentedRecovered
  | [], indexes, summaries => .ok { indexes with segmentSummaries := summaries }
  | segment :: segments, indexes, summaries => do
    let (indexes, summary) ← scanSegment ext config segments.isEmpty segment indexes
    scanSegments segments indexes (summaries ++ [summary])

def recoverSegmentedSegments (segments : List OpenSegment) :
    Except EventStoreError SegmentedRecovered :=
  scanSegments ext config segments Indexes.empty []

end Scan

namespace SegmentedEventStore

def lookupFile (directory : Directory) (name : String) : Option Bytes :=
  (directory.find? (·.1 == name)).map (·.2)

def sidecarsOf (directory : Directory) : Sidecars where
  index := lookupFile directory segmentIndexFile
  indexTemp := lookupFile directory segmentIndexTempFile
  snapshot := lookupFile directory segmentSnapshotFile
  snapshotTemp := lookupFile directory segmentSnapshotTempFile

def openSegments (found : List OpenSegment) : List OpenSegment :=
  match found with
  | [] => [{ id := 1, path := segmentFileName 1, file := [] }]
  | found => found

def metaOf (summary : SegmentSummary) : SegmentMeta where
  id := summary.id
  path := summary.path
  file := summary.file
  synced := summary.file.length
  byteCount := summary.byteCount
  recordCount := summary.recordCount
  pendingRecords := 0
  pendingBytes := 0

def stateOf (recovered : SegmentedRecovered) (sidecars : Sidecars) :
    Except EventStoreError SegmentedState :=
  match recovered.segmentSummaries.getLast? with
  | none => .error (.invalidConfiguration "segmented store has no active segment")
  | some active =>
    .ok { recovered.toIndexes with
      completed := recovered.segmentSummaries.dropLast.map metaOf
      active := metaOf active
      pendingRecords := 0
      pendingBytes := 0
      poisoned := false
      sidecars := sidecars }

def openDirectory (directory : Directory) : Except EventStoreError SegmentedState := do
  config.validate
  let found ← discoverSegments directory
  let recovered ← recoverSegmentedSegments ext config (openSegments found)
  let sidecars := sidecarsOf directory
  validateRecoverySidecars ext config sidecars.index sidecars.snapshot recovered
  stateOf recovered sidecars

end SegmentedEventStore

def optionalFile (name : String) (file : Option Bytes) : Directory :=
  (file.map (fun bytes => (name, bytes))).toList

def directoryOf (segments : List (String × Bytes)) (sidecars : Sidecars) : Directory :=
  (segmentLockFile, []) :: (segments
    ++ (optionalFile segmentIndexFile sidecars.index
    ++ (optionalFile segmentIndexTempFile sidecars.indexTemp
    ++ (optionalFile segmentSnapshotFile sidecars.snapshot
    ++ optionalFile segmentSnapshotTempFile sidecars.snapshotTemp))))

def SegmentedState.directory (state : SegmentedState) : Directory :=
  directoryOf (state.segments.map (fun segment => (segment.path, segment.file))) state.sidecars

end EventStore
