import Trillionnium.EventStore.Impl.Durable

/-!
The sidecar files of the segmented store, an index of the record locations and a snapshot of the
records, and how they are checked against a scan of the segments.
-/

namespace EventStore

open Json

structure Indexes extends Recovered where
  byScope : HashMap TurnScope (List Nat)
  locations : HashMap EventKey SegmentLocation

structure SegmentSummary where
  id : Nat
  path : String
  file : Bytes
  byteCount : Nat
  recordCount : Nat

structure SegmentedRecovered extends Indexes where
  segmentSummaries : List SegmentSummary

def SegmentedRecovered.summary? (recovered : SegmentedRecovered) (id : Nat) : Option SegmentSummary :=
  recovered.segmentSummaries.find? (·.id == id)

def segmentIndexSchema : String := "trillionnium.owner-open.event-index.v2"

def segmentSnapshotSchema : String := "trillionnium.owner-open.event-snapshot.v2"

structure IndexManifestSegment where
  id : Nat
  byteCount : Nat
  recordCount : Nat
  deriving DecidableEq, Repr

structure IndexManifestEntry where
  scope : TurnScope
  eventId : String
  location : SegmentLocation
  deriving DecidableEq, Repr

structure IndexManifest where
  schema : String
  recordCount : Nat
  byteCount : Nat
  lastRecordSha256 : String
  segments : List IndexManifestSegment
  entries : List IndexManifestEntry
  deriving DecidableEq, Repr

structure SnapshotManifest where
  schema : String
  recordCount : Nat
  byteCount : Nat
  lastRecordSha256 : String
  records : List EventRecord

section Codec

def natValue (n : Nat) : Value := .number (.posInt n)

def SegmentLocation.toValue (location : SegmentLocation) : Value :=
  .object [
    ("segment_id", natValue location.segmentId),
    ("offset", natValue location.offset),
    ("byte_len", natValue location.byteLen),
    ("store_seq", natValue location.storeSeq)]

def SegmentLocation.fieldNames : List String := ["segment_id", "offset", "byte_len", "store_seq"]

def SegmentLocation.ofDocument (d : Document) : Except Error SegmentLocation := do
  match ← d.fieldsOf fieldNames with
  | [segmentId, offset, byteLen, storeSeq] =>
    return {
      segmentId := ← segmentId.asNat
      offset := ← offset.asNat
      byteLen := ← byteLen.asNat
      storeSeq := ← storeSeq.asNat
    }
  | _ => .error (.invalidType "a struct")

def IndexManifestSegment.toValue (segment : IndexManifestSegment) : Value :=
  .object [
    ("id", natValue segment.id),
    ("byte_count", natValue segment.byteCount),
    ("record_count", natValue segment.recordCount)]

def IndexManifestSegment.fieldNames : List String := ["id", "byte_count", "record_count"]

def IndexManifestSegment.ofDocument (d : Document) : Except Error IndexManifestSegment := do
  match ← d.fieldsOf fieldNames with
  | [id, byteCount, recordCount] =>
    return {
      id := ← id.asNat
      byteCount := ← byteCount.asNat
      recordCount := ← recordCount.asNat
    }
  | _ => .error (.invalidType "a struct")

def IndexManifestEntry.toValue (entry : IndexManifestEntry) : Value :=
  .object [
    ("scope", entry.scope.toValue),
    ("event_id", .string entry.eventId),
    ("location", entry.location.toValue)]

def IndexManifestEntry.fieldNames : List String := ["scope", "event_id", "location"]

def IndexManifestEntry.ofDocument (d : Document) : Except Error IndexManifestEntry := do
  match ← d.fieldsOf fieldNames with
  | [scope, eventId, location] =>
    return {
      scope := ← TurnScope.ofDocument scope
      eventId := ← eventId.asString
      location := ← SegmentLocation.ofDocument location
    }
  | _ => .error (.invalidType "a struct")

def IndexManifest.toValue (manifest : IndexManifest) : Value :=
  .object [
    ("schema", .string manifest.schema),
    ("record_count", natValue manifest.recordCount),
    ("byte_count", natValue manifest.byteCount),
    ("last_record_sha256", .string manifest.lastRecordSha256),
    ("segments", .array (manifest.segments.map (·.toValue))),
    ("entries", .array (manifest.entries.map (·.toValue)))]

def IndexManifest.fieldNames : List String :=
  ["schema", "record_count", "byte_count", "last_record_sha256", "segments", "entries"]

def IndexManifest.ofDocument (d : Document) : Except Error IndexManifest := do
  match ← d.fieldsOf fieldNames with
  | [schema, recordCount, byteCount, lastRecordSha256, segments, entries] =>
    return {
      schema := ← schema.asString
      recordCount := ← recordCount.asNat
      byteCount := ← byteCount.asNat
      lastRecordSha256 := ← lastRecordSha256.asString
      segments := ← (← segments.asList).mapM IndexManifestSegment.ofDocument
      entries := ← (← entries.asList).mapM IndexManifestEntry.ofDocument
    }
  | _ => .error (.invalidType "a struct")

def SnapshotManifest.toValue (manifest : SnapshotManifest) : Value :=
  .object [
    ("schema", .string manifest.schema),
    ("record_count", natValue manifest.recordCount),
    ("byte_count", natValue manifest.byteCount),
    ("last_record_sha256", .string manifest.lastRecordSha256),
    ("records", .array (manifest.records.map (·.toValue)))]

def SnapshotManifest.fieldNames : List String :=
  ["schema", "record_count", "byte_count", "last_record_sha256", "records"]

def SnapshotManifest.ofDocument (d : Document) : Except Error SnapshotManifest := do
  match ← d.fieldsOf fieldNames with
  | [schema, recordCount, byteCount, lastRecordSha256, records] =>
    return {
      schema := ← schema.asString
      recordCount := ← recordCount.asNat
      byteCount := ← byteCount.asNat
      lastRecordSha256 := ← lastRecordSha256.asString
      records := ← (← records.asList).mapM EventRecord.ofDocument
    }
  | _ => .error (.invalidType "a struct")

end Codec

section Validate

variable (ext : Externals) (config : SegmentedEventStoreConfig)

def maxSidecarBytes : Nat := 2 * 1024 * 1024 * 1024

def sidecarByteLimit : Nat :=
  max (16 * 1024 * 1024) (min (2 * config.limits.maxStoreBytes + 16 * 1024 * 1024) maxSidecarBytes)

def invalidSidecar (label message : String) : EventStoreError :=
  .invalidRecord s!"{label} is invalid: {message}"

def addLineBytes (recovered : SegmentedRecovered) (byteCount : Nat) (record : EventRecord) :
    Except EventStoreError Nat :=
  match recovered.locations.lookup record.key with
  | none => .error .statePoisoned
  | some location =>
    if location.storeSeq ≠ record.storeSeq then
      .error .statePoisoned
    else
      match checkedAdd byteCount location.byteLen with
      | none => .error .capacityExhausted
      | some byteCount => .ok byteCount

def prefixDigest (recovered : SegmentedRecovered) : (count : Nat) → String
  | 0 => zeroSha256
  | index + 1 => (recovered.records[index]?.map (·.recordSha256)).getD zeroSha256

def recoveredPrefixMetadata (recovered : SegmentedRecovered) (count : Nat) :
    Except EventStoreError (Nat × String) :=
  if count > recovered.records.length then
    .error .statePoisoned
  else do
    let byteCount ← (recovered.records.take count).foldlM (addLineBytes recovered) 0
    return (byteCount, prefixDigest recovered count)

def validateIndexSegment (recovered : SegmentedRecovered) (position : Nat)
    (segment : IndexManifestSegment) : Except EventStoreError Unit :=
  if segment.id ≠ position + 1 then
    .error (invalidSidecar "event index" "segment IDs are not contiguous")
  else
    match recovered.summary? segment.id with
    | none => .error (invalidSidecar "event index" "segment is absent from the WAL")
    | some actual =>
      if segment.recordCount > actual.recordCount ∨ segment.byteCount > actual.byteCount then
        .error (invalidSidecar "event index" "segment summary is ahead of the recovered WAL")
      else
        .ok ()

def validateIndexEntry (recovered : SegmentedRecovered) (segments : List IndexManifestSegment)
    (perSegment : HashMap Nat (Nat × Nat)) (position : Nat) (entry : IndexManifestEntry) :
    Except EventStoreError (HashMap Nat (Nat × Nat)) := do
  validateScope entry.scope config.limits
  validateId "event index event_id" entry.eventId config.limits.maxIdBytes
  if entry.location.storeSeq ≠ position then
    .error (invalidSidecar "event index" "entries are not a contiguous store-sequence prefix")
  else
    match recovered.locations.lookup ⟨entry.scope, entry.eventId⟩ with
    | none => .error (invalidSidecar "event index" "entry key is absent from the WAL")
    | some expectedLocation =>
      if expectedLocation ≠ entry.location then
        .error (invalidSidecar "event index" "entry location does not match the WAL")
      else
        match recovered.records[position]? with
        | none => .error (invalidSidecar "event index" "entry points beyond the WAL")
        | some record =>
          if record.scope ≠ entry.scope ∨ record.eventId ≠ entry.eventId then
            .error (invalidSidecar "event index" "entry identity does not match the WAL sequence")
          else if segments.any (·.id == entry.location.segmentId) = false then
            .error (invalidSidecar "event index" "entry segment is not listed")
          else
            match recovered.summary? entry.location.segmentId with
            | none => .error (invalidSidecar "event index" "entry segment is absent")
            | some actual =>
              if entry.location.byteLen = 0
                  ∨ (checkedAdd entry.location.offset entry.location.byteLen).all (· > actual.byteCount) = true then
                .error (invalidSidecar "event index" "entry byte range is outside its segment")
              else
                let aggregate := HashMap.getD perSegment entry.location.segmentId (0, 0)
                match checkedAdd aggregate.1 1 with
                | none => .error (invalidSidecar "event index" "segment record count overflow")
                | some records =>
                  match checkedAdd aggregate.2 entry.location.byteLen with
                  | none => .error (invalidSidecar "event index" "segment byte count overflow")
                  | some bytes => return perSegment.insert entry.location.segmentId (records, bytes)

def validateIndexEntries (recovered : SegmentedRecovered) (segments : List IndexManifestSegment) :
    HashMap Nat (Nat × Nat) → Nat → List IndexManifestEntry →
    Except EventStoreError (HashMap Nat (Nat × Nat))
  | perSegment, _, [] => .ok perSegment
  | perSegment, position, entry :: entries => do
    let perSegment ← validateIndexEntry config recovered segments perSegment position entry
    validateIndexEntries recovered segments perSegment (position + 1) entries

def validateIndexSegments (recovered : SegmentedRecovered) :
    Nat → List IndexManifestSegment → Except EventStoreError Unit
  | _, [] => .ok ()
  | position, segment :: segments => do
    validateIndexSegment recovered position segment
    validateIndexSegments recovered (position + 1) segments

def validateIndexManifest (manifest : IndexManifest) (recovered : SegmentedRecovered) :
    Except EventStoreError Unit := do
  if manifest.schema ≠ segmentIndexSchema then
    .error (invalidSidecar "event index" "schema does not match")
  else if manifest.recordCount > recovered.records.length then
    .error (invalidSidecar "event index" "record count is ahead of the recovered WAL")
  else if manifest.entries.length ≠ manifest.recordCount then
    .error (invalidSidecar "event index" "entry count does not match record count")
  else
    requireSha256 manifest.lastRecordSha256 "event index last_record_sha256"
    let (expectedBytes, expectedHash) ← recoveredPrefixMetadata recovered manifest.recordCount
    if manifest.byteCount ≠ expectedBytes ∨ manifest.lastRecordSha256 ≠ expectedHash then
      .error (invalidSidecar "event index" "high-water metadata does not match the recovered WAL prefix")
    else if manifest.segments = [] then
      .error (invalidSidecar "event index" "segment summary list must contain segment one")
    else if manifest.segments.length > recovered.segmentSummaries.length then
      .error (invalidSidecar "event index" "segment summary list is ahead of the recovered WAL")
    else
      validateIndexSegments recovered 0 manifest.segments
      let perSegment ← validateIndexEntries config recovered manifest.segments ∅ 0 manifest.entries
      if manifest.segments.any (fun segment =>
          HashMap.getD perSegment segment.id (0, 0) != (segment.recordCount, segment.byteCount)) then
        .error (invalidSidecar "event index" "segment summary does not match its entries")
      else
        .ok ()

def validateSnapshotRecords (recovered : SegmentedRecovered) :
    Nat → List EventRecord → Except EventStoreError Unit
  | _, [] => .ok ()
  | position, record :: records => do
    validateRecord ext record config.limits
    if (recovered.records[position]? == some record) = false then
      .error (invalidSidecar "event snapshot" "record array diverges from the WAL prefix")
    else
      validateSnapshotRecords recovered (position + 1) records

def validateSnapshotManifest (manifest : SnapshotManifest) (recovered : SegmentedRecovered) :
    Except EventStoreError Unit := do
  if manifest.schema ≠ segmentSnapshotSchema then
    .error (invalidSidecar "event snapshot" "schema does not match")
  else if manifest.records.length ≠ manifest.recordCount then
    .error (invalidSidecar "event snapshot" "record count does not match the record array")
  else if manifest.recordCount > recovered.records.length then
    .error (invalidSidecar "event snapshot" "record count is ahead of the recovered WAL")
  else
    requireSha256 manifest.lastRecordSha256 "event snapshot last_record_sha256"
    let (expectedBytes, expectedHash) ← recoveredPrefixMetadata recovered manifest.recordCount
    if manifest.byteCount ≠ expectedBytes ∨ manifest.lastRecordSha256 ≠ expectedHash then
      .error (invalidSidecar "event snapshot" "high-water metadata does not match the recovered WAL prefix")
    else
      validateSnapshotRecords ext config recovered 0 manifest.records

def readSidecar (label : String) (maximum : Nat) (file : Option Bytes) :
    Except EventStoreError (Option Bytes) :=
  match file with
  | none => .ok none
  | some bytes =>
    if bytes.length > maximum then
      .error (invalidSidecar label s!"sidecar exceeds the {maximum}-byte bound")
    else
      .ok (some bytes)

def decodeSidecar {α : Type} (label : String) (ofDocument : Document → Except Error α)
    (encoded : Bytes) : Except EventStoreError α :=
  match decode ext.float ofDocument encoded with
  | .ok manifest => .ok manifest
  | .error e => .error (invalidSidecar label e.toString)

def validateIndexSidecar (file : Option Bytes) (recovered : SegmentedRecovered) :
    Except EventStoreError Unit := do
  match ← readSidecar "event index" (sidecarByteLimit config) file with
  | none => return ()
  | some encoded =>
    let manifest ← decodeSidecar ext "event index" IndexManifest.ofDocument encoded
    validateIndexManifest config manifest recovered

def validateSnapshotSidecar (file : Option Bytes) (recovered : SegmentedRecovered) :
    Except EventStoreError Unit := do
  match ← readSidecar "event snapshot" (sidecarByteLimit config) file with
  | none => return ()
  | some encoded =>
    let manifest ← decodeSidecar ext "event snapshot" SnapshotManifest.ofDocument encoded
    validateSnapshotManifest ext config manifest recovered

def validateRecoverySidecars (index snapshot : Option Bytes) (recovered : SegmentedRecovered) :
    Except EventStoreError Unit := do
  validateIndexSidecar ext config index recovered
  validateSnapshotSidecar ext config snapshot recovered

end Validate

end EventStore
