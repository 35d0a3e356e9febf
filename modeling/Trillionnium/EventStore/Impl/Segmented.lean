import Trillionnium.EventStore.Impl.Sidecar

/-!
The segmented store. It keeps the lines of the single file store in numbered segment files and syncs
them in groups.
-/

namespace EventStore

open Json

structure SegmentMeta where
  id : Nat
  path : String
  file : Bytes
  synced : Nat
  byteCount : Nat
  recordCount : Nat
  pendingRecords : Nat
  pendingBytes : Nat

structure Sidecars where
  index : Option Bytes
  indexTemp : Option Bytes
  snapshot : Option Bytes
  snapshotTemp : Option Bytes

structure SegmentedState extends Indexes where
  completed : List SegmentMeta
  active : SegmentMeta
  pendingRecords : Nat
  pendingBytes : Nat
  poisoned : Bool
  sidecars : Sidecars

namespace SegmentedState

def segments (state : SegmentedState) : List SegmentMeta := state.completed ++ [state.active]

def poison (state : SegmentedState) : SegmentedState := { state with poisoned := true }

end SegmentedState

structure SyncIo where
  /-- The first error of the checks before the first segment is synced. -/
  before : Option EventStoreError
  /-- The first error of the checks and the sync of the segment with the given number. -/
  target : Nat → Option EventStoreError
  /-- The first error of the checks after the last segment has been synced. -/
  after : Option EventStoreError

def SyncIo.success : SyncIo := { before := none, target := fun _ => none, after := none }

structure SegmentedAppendIo where
  root : Option EventStoreError
  activeRoot : Option EventStoreError
  rotate : SyncIo
  create : Option EventStoreError
  active : Option EventStoreError
  write : Option (Nat × EventStoreError)
  written : Option EventStoreError
  elapsed : Nat
  groupCommit : SyncIo

def SegmentedAppendIo.success (elapsed : Nat) : SegmentedAppendIo where
  root := none
  activeRoot := none
  rotate := .success
  create := none
  active := none
  write := none
  written := none
  elapsed := elapsed
  groupCommit := .success

structure SidecarIo where
  /-- A failed check of the pinned root directory poisons the store. -/
  root : Option EventStoreError
  /-- The first error of the other checks before the temporary file is created. -/
  before : Option EventStoreError
  /-- A failed write or rename leaves a temporary file behind. -/
  write : Option (Nat × EventStoreError)
  /-- The first error of the checks after the rename. -/
  published : Option EventStoreError

def SidecarIo.success : SidecarIo := { root := none, before := none, write := none, published := none }

def segmentFilePrefix : String := "segment-"

def segmentFileSuffix : String := ".jsonl"

def segmentFileName (id : Nat) : String :=
  let digits := Nat.toDigits 10 id
  String.ofList (segmentFilePrefix.toList
    ++ (List.replicate (20 - digits.length) '0' ++ digits ++ segmentFileSuffix.toList))

def createSegment (id : Nat) : SegmentMeta where
  id := id
  path := segmentFileName id
  file := []
  synced := 0
  byteCount := 0
  recordCount := 0
  pendingRecords := 0
  pendingBytes := 0

namespace SegmentedEventStore

variable (ext : Externals) (config : SegmentedEventStoreConfig)

section Sync

def validateStateCurrent (checks : Option EventStoreError) (state : SegmentedState) :
    Except EventStoreError Unit :=
  match checks with
  | some e => .error e
  | none =>
    if state.segments.all (fun segment => segment.file.length == segment.byteCount) then
      .ok ()
    else
      .error .poisoned

def validateAllSegmentsCurrent (checks : Option EventStoreError) (state : SegmentedState) :
    Except EventStoreError Unit :=
  if state.poisoned then
    .error .poisoned
  else
    validateStateCurrent checks state

def syncSegment (target : Nat → Option EventStoreError) (segment : SegmentMeta) :
    Except EventStoreError SegmentMeta :=
  if segment.pendingRecords = 0 then
    .ok segment
  else
    match target segment.id with
    | some e => .error e
    | none =>
      if segment.file.length ≠ segment.byteCount then
        .error .poisoned
      else if config.syncPolicy = .none then
        .ok segment
      else
        .ok { segment with synced := segment.file.length }

def settleSegment (pending : Nat × Nat) (segment : SegmentMeta) :
    Option ((Nat × Nat) × SegmentMeta) :=
  if segment.pendingRecords = 0 then
    some (pending, segment)
  else if segment.pendingRecords ≤ pending.1 ∧ segment.pendingBytes ≤ pending.2 then
    some ((pending.1 - segment.pendingRecords, pending.2 - segment.pendingBytes),
      { segment with pendingRecords := 0, pendingBytes := 0 })
  else
    none

def settleSegments : Nat × Nat → List SegmentMeta → Option ((Nat × Nat) × List SegmentMeta)
  | pending, [] => some (pending, [])
  | pending, segment :: segments => do
    let (pending, segment) ← settleSegment pending segment
    let (pending, segments) ← settleSegments pending segments
    return (pending, segment :: segments)

def syncTargets (io : SyncIo) (state : SegmentedState) :
    Except EventStoreError (List SegmentMeta × SegmentMeta) := do
  let completed ← state.completed.mapM (syncSegment config io.target)
  let active ← syncSegment config io.target state.active
  return (completed, active)

def settle (completed : List SegmentMeta) (active : SegmentMeta) (state : SegmentedState) :
    Option SegmentedState := do
  let (pending, completed) ← settleSegments (state.pendingRecords, state.pendingBytes) completed
  let (pending, active) ← settleSegment pending active
  return { state with
    completed := completed, active := active, pendingRecords := pending.1, pendingBytes := pending.2 }

def syncChecks (validateAll : Bool) (checks : Option EventStoreError) (state : SegmentedState) :
    Except EventStoreError Unit :=
  if validateAll then
    validateAllSegmentsCurrent checks state
  else
    match checks with
    | some e => .error e
    | none => .ok ()

def syncPendingUnderGate (validateAll : Bool) (io : SyncIo) (state : SegmentedState) :
    Except EventStoreError Unit × SegmentedState :=
  match syncChecks validateAll io.before state with
  | .error e => (.error e, state.poison)
  | .ok () =>
    if state.poisoned then
      (.error .poisoned, state)
    else
      match syncTargets config io state with
      | .error e => (.error e, state.poison)
      | .ok (completed, active) =>
        match settle completed active state with
        | none => (.error .poisoned, state.poison)
        | some state =>
          match syncChecks validateAll io.after state with
          | .error e => (.error e, state.poison)
          | .ok () => (.ok (), state)

def syncPending (io : SyncIo) (state : SegmentedState) : Except EventStoreError Unit × SegmentedState :=
  syncPendingUnderGate config true io state

end Sync

section Append

def needsRotation (encodedLen : Nat) (state : SegmentedState) : Bool :=
  state.active.recordCount > 0
    && (state.active.recordCount ≥ config.maxSegmentRecords
      || (checkedAdd state.active.byteCount encodedLen).any (· > config.maxSegmentBytes))

def ensureActiveSegment (io : SegmentedAppendIo) (encodedLen : Nat) (state : SegmentedState) :
    Except EventStoreError Unit × SegmentedState :=
  match io.activeRoot with
  | some e => (.error e, state.poison)
  | none =>
    if needsRotation config encodedLen state then
      match syncPendingUnderGate config true io.rotate state with
      | (.error e, state) => (.error e, state)
      | (.ok (), state) =>
        if state.segments.length ≥ maxEventSegments then
          (.error .capacityExhausted, state)
        else
          match checkedAdd state.active.id 1 with
          | none => (.error .capacityExhausted, state)
          | some nextId =>
            match io.create with
            | some e => (.error e, state)
            | none =>
              (.ok (), { state with
                completed := state.completed ++ [state.active], active := createSegment nextId })
    else
      (.ok (), state)

def publish (r : Reserved) (state : SegmentedState) : SegmentedState :=
  { state with
    toRecovered := state.publish r.record r.nextTurnSeq r.encoded.length
    byScope := state.byScope.insert r.record.scope
      (HashMap.getD state.byScope r.record.scope [] ++ [state.records.length])
    locations := state.locations.insert r.record.key {
      segmentId := state.active.id
      offset := state.active.byteCount
      byteLen := r.encoded.length
      storeSeq := r.record.storeSeq
    }
    active := { state.active with
      byteCount := state.active.byteCount + r.encoded.length
      recordCount := state.active.recordCount + 1
      pendingRecords := state.active.pendingRecords + 1
      pendingBytes := state.active.pendingBytes + r.encoded.length
    }
    pendingRecords := state.pendingRecords + 1
    pendingBytes := state.pendingBytes + r.encoded.length }

def countersFit (r : Reserved) (state : SegmentedState) : Bool :=
  (checkedAdd state.byteCount r.encoded.length).any (· ≤ config.limits.maxStoreBytes)
    && (checkedAdd state.active.byteCount r.encoded.length).isSome
    && (checkedAdd state.active.recordCount 1).isSome
    && (checkedAdd state.active.pendingRecords 1).isSome
    && (checkedAdd state.active.pendingBytes r.encoded.length).isSome
    && (checkedAdd state.pendingRecords 1).isSome
    && (checkedAdd state.pendingBytes r.encoded.length).isSome

def shouldSync (elapsed : Nat) (state : SegmentedState) : Bool :=
  state.pendingRecords ≥ config.groupCommitRecords
    || state.pendingBytes ≥ config.groupCommitBytes
    || elapsed ≥ config.groupCommitInterval

def writeActive (bytes : Bytes) (state : SegmentedState) : SegmentedState :=
  { state with active := { state.active with file := state.active.file ++ bytes } }

def groupCommit (io : SegmentedAppendIo) (record : EventRecord) (state : SegmentedState) :
    Except EventStoreError AppendResult × SegmentedState :=
  if shouldSync config io.elapsed state then
    match syncPendingUnderGate config false io.groupCommit state with
    | (.error e, state) => (.error e, state)
    | (.ok (), state) => (.ok { disposition := .appended, record := record }, state)
  else
    (.ok { disposition := .appended, record := record }, state)

def commit (io : SegmentedAppendIo) (r : Reserved) (state : SegmentedState) :
    Except EventStoreError AppendResult × SegmentedState :=
  match io.active with
  | some e => (.error e, state.poison)
  | none =>
    if state.active.file.length ≠ state.active.byteCount then
      (.error .poisoned, state.poison)
    else
      match io.write with
      | some (n, e) => (.error e, (writeActive (r.encoded.take n) state).poison)
      | none =>
        match io.written with
        | some e => (.error e, (writeActive r.encoded state).poison)
        | none =>
          if countersFit config r state = false then
            (.error .capacityExhausted, (writeActive r.encoded state).poison)
          else
            groupCommit config io r.record (publish r (writeActive r.encoded state))

def append (io : SegmentedAppendIo) (input : EventInput) (state : SegmentedState) :
    Except EventStoreError AppendResult × SegmentedState :=
  match validateEventInput input config.limits with
  | .error e => (.error e, state)
  | .ok () =>
    match io.root with
    | some e => (.error e, state.poison)
    | none =>
      if state.poisoned then
        (.error .poisoned, state)
      else
        match state.reserve ext config.limits input with
        | .error e => (.error e, state)
        | .ok (.existing record) => (.ok { disposition := .existing, record := record }, state)
        | .ok (.reserved r) =>
          match ensureActiveSegment config io r.encoded.length state with
          | (.error e, state) => (.error e, state)
          | (.ok (), state) => commit config io r state

def appendDurable (io : SegmentedAppendIo) (sync : SyncIo) (input : EventInput)
    (state : SegmentedState) : Except EventStoreError AppendResult × SegmentedState :=
  if config.syncPolicy = .none then
    (.error (.invalidConfiguration "append_durable requires Data or Full sync policy"), state)
  else
    match append ext config io input state with
    | (.error e, state) => (.error e, state)
    | (.ok result, state) =>
      match syncPending config sync state with
      | (.error e, state) => (.error e, state)
      | (.ok (), state) => (.ok result, state)

end Append

section Sidecar

def atomicSidecarWrite (io : SidecarIo) (label : String) (final temp : Option Bytes) (bytes : Bytes) :
    Except EventStoreError Unit × Option Bytes × Option Bytes :=
  match io.before with
  | some e => (.error e, final, temp)
  | none =>
    if temp.isSome then
      (.error (.unsafePath s!"{label} temporary file already exists; refusing to truncate it"),
        final, temp)
    else
      match io.write with
      | some (n, e) => (.error e, final, some ((bytes ++ [10]).take n))
      | none =>
        match io.published with
        | some e => (.error e, some (bytes ++ [10]), none)
        | none => (.ok (), some (bytes ++ [10]), none)

def indexManifest (state : SegmentedState) : IndexManifest where
  schema := segmentIndexSchema
  recordCount := state.records.length
  byteCount := state.byteCount
  lastRecordSha256 := state.lastRecordSha256
  segments := state.segments.map (fun segment =>
    { id := segment.id, byteCount := segment.byteCount, recordCount := segment.recordCount })
  entries := (state.locations.entries.map (fun entry =>
    (⟨entry.1.scope, entry.1.eventId, entry.2⟩ : IndexManifestEntry))).insertionSort
      (fun a b => a.location.storeSeq ≤ b.location.storeSeq)

def snapshotManifest (state : SegmentedState) : SnapshotManifest where
  schema := segmentSnapshotSchema
  recordCount := state.records.length
  byteCount := state.byteCount
  lastRecordSha256 := state.lastRecordSha256
  records := state.records

def writeIndexManifest (io : SidecarIo) (state : SegmentedState) :
    Except EventStoreError Unit × SegmentedState :=
  match validateAllSegmentsCurrent io.root state with
  | .error e => (.error e, state.poison)
  | .ok () =>
    let encoded := write ext.float (indexManifest state).toValue
    let (result, index, temp) :=
      atomicSidecarWrite io "event index" state.sidecars.index state.sidecars.indexTemp encoded
    (result, { state with sidecars := { state.sidecars with index := index, indexTemp := temp } })

def writeSnapshot (io : SidecarIo) (state : SegmentedState) :
    Except EventStoreError Unit × SegmentedState :=
  match validateAllSegmentsCurrent io.root state with
  | .error e => (.error e, state.poison)
  | .ok () =>
    let encoded := write ext.float (snapshotManifest state).toValue
    let (result, snapshot, temp) :=
      atomicSidecarWrite io "event snapshot" state.sidecars.snapshot state.sidecars.snapshotTemp encoded
    (result, { state with
      sidecars := { state.sidecars with snapshot := snapshot, snapshotTemp := temp } })

def flush (sync : SyncIo) (io : SidecarIo) (state : SegmentedState) :
    Except EventStoreError Unit × SegmentedState :=
  match syncPendingUnderGate config true sync state with
  | (.error e, state) => (.error e, state)
  | (.ok (), state) => writeIndexManifest ext io state

structure Snapshot where
  segmentCount : Nat
  recordCount : Nat
  indexedCount : Nat
  byteCount : Nat
  pendingRecords : Nat
  pendingBytes : Nat
  lastRecordSha256 : String
  poisoned : Bool
  deriving DecidableEq, Repr

def snapshotFromState (state : SegmentedState) : Snapshot where
  segmentCount := state.segments.length
  recordCount := state.records.length
  indexedCount := state.locations.entries.length
  byteCount := state.byteCount
  pendingRecords := state.pendingRecords
  pendingBytes := state.pendingBytes
  lastRecordSha256 := state.lastRecordSha256
  poisoned := state.poisoned

def checkpoint (sync : SyncIo) (snapshotIo indexIo : SidecarIo) (state : SegmentedState) :
    Except EventStoreError Snapshot × SegmentedState :=
  match syncPendingUnderGate config true sync state with
  | (.error e, state) => (.error e, state)
  | (.ok (), state) =>
    match writeSnapshot ext snapshotIo state with
    | (.error e, state) => (.error e, state)
    | (.ok (), state) =>
      match writeIndexManifest ext indexIo state with
      | (.error e, state) => (.error e, state)
      | (.ok (), state) => (.ok (snapshotFromState state), state)

end Sidecar

section Read

def withLiveState {α : Type} (checks : Option EventStoreError) (operation : SegmentedState → α)
    (state : SegmentedState) : Except EventStoreError α × SegmentedState :=
  if state.poisoned then
    (.error .poisoned, state)
  else
    match validateStateCurrent checks state with
    | .error e => (.error e, state.poison)
    | .ok () => (.ok (operation state), state)

def allRecords (checks : Option EventStoreError) (state : SegmentedState) :
    Except EventStoreError (List EventRecord) × SegmentedState :=
  withLiveState checks (fun state => state.records) state

def replay (checks : Option EventStoreError) (scope : TurnScope) (inclusiveTurnSeq : Nat)
    (state : SegmentedState) : Except EventStoreError (List EventRecord) × SegmentedState :=
  match validateScope scope config.limits with
  | .error e => (.error e, state)
  | .ok () =>
    withLiveState checks (fun state =>
      ((HashMap.getD state.byScope scope []).filterMap (fun index => state.records[index]?)).filter
        (fun record => record.turnSeq ≥ inclusiveTurnSeq)) state

def location (checks : Option EventStoreError) (scope : TurnScope) (eventId : String)
    (state : SegmentedState) : Except EventStoreError (Option SegmentLocation) × SegmentedState :=
  match (do validateScope scope config.limits; validateId "event_id" eventId config.limits.maxIdBytes) with
  | .error e => (.error e, state)
  | .ok () => withLiveState checks (fun state => state.locations.lookup ⟨scope, eventId⟩) state

end Read

end SegmentedEventStore

end EventStore
