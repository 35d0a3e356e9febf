import Trillionnium.EventStore.Impl.Recovery

/-!
The migration of a single file store into a segmented one. The records of the source are appended to
the destination through its own writer, after the ones that are there already.
-/

namespace EventStore

open Json

structure MigrationIo where
  existing : Option EventStoreError
  append : Nat → SegmentedAppendIo
  sync : SyncIo
  index : SidecarIo

def MigrationIo.success (elapsed : Nat → Nat) : MigrationIo where
  existing := none
  append := fun i => .success (elapsed i)
  sync := .success
  index := .success

def EventRecord.input (record : EventRecord) : EventInput where
  scope := record.scope
  eventId := record.eventId
  kind := record.kind
  payload := record.payload

variable (ext : Externals) (config : SegmentedEventStoreConfig)

namespace DurableEventStore

def verifyLegacySnapshot (limits : EventStoreLimits) (legacy : State) (initialRecords : List EventRecord) :
    Except EventStoreError (List EventRecord) × State :=
  match rereadLiveRecords ext limits legacy with
  | (.error e, legacy) => (.error e, legacy)
  | (.ok currentRecords, legacy) =>
    if (currentRecords == initialRecords) = false then
      (.error .eventConflict, legacy)
    else
      (.ok currentRecords, legacy)

end DurableEventStore

namespace SegmentedEventStore

def copyLegacy (io : Nat → SegmentedAppendIo) :
    Nat → List EventRecord → SegmentedState → Except EventStoreError Unit × SegmentedState
  | _, [], state => (.ok (), state)
  | i, record :: records, state =>
    match append ext config (io i) record.input state with
    | (.error e, state) => (.error e, state)
    | (.ok result, state) =>
      if result.record == record then
        copyLegacy io (i + 1) records state
      else
        (.error (.invalidRecord "legacy migration changed an event record"), state)

def reconcileLegacyPrefix (io : MigrationIo) (allowDestinationTail : Bool)
    (legacyRecords : List EventRecord) (state : SegmentedState) :
    Except EventStoreError Unit × SegmentedState :=
  match allRecords io.existing state with
  | (.error e, state) => (.error e, state)
  | (.ok existing, state) =>
    let prefixMatches := (existing.zip legacyRecords).all (fun pair => pair.1 == pair.2)
    if existing.length > legacyRecords.length then
      if allowDestinationTail && prefixMatches then
        (.ok (), state)
      else
        (.error .eventConflict, state)
    else if prefixMatches = false then
      (.error .eventConflict, state)
    else
      match copyLegacy ext config io.append 0 (legacyRecords.drop existing.length) state with
      | (.error e, state) => (.error e, state)
      | (.ok (), state) => flush ext config io.sync io.index state

def openAndReconcile (io : MigrationIo) (allowDestinationTail : Bool) (legacyFile : Bytes)
    (directory : Directory) :
    Except EventStoreError (Except EventStoreError Unit × SegmentedState) := do
  let legacy ← DurableEventStore.openFile ext config.limits legacyFile
  let legacyRecords ← (DurableEventStore.allRecords .success legacy).1
  let store ← openDirectory ext config directory
  let stableLegacyRecords ←
    (DurableEventStore.verifyLegacySnapshot ext config.limits legacy legacyRecords).1
  return reconcileLegacyPrefix ext config io allowDestinationTail stableLegacyRecords store

def migrateLegacy (io : MigrationIo) (legacyPath : String) (legacyFile : Option Bytes)
    (directory : Directory) :
    Except EventStoreError (Except EventStoreError Unit × SegmentedState) :=
  match legacyFile with
  | none => .error (.io s!"legacy event-store path does not exist: {legacyPath}")
  | some legacyFile => openAndReconcile ext config io false legacyFile directory

def openOrMigrateWithLegacyPrefix (io : MigrationIo) (legacyFile : Option Bytes)
    (directory : Directory) :
    Except EventStoreError (Except EventStoreError Unit × SegmentedState) :=
  match legacyFile with
  | none => (openDirectory ext config directory).map (fun store => (.ok (), store))
  | some legacyFile => openAndReconcile ext config io true legacyFile directory

end SegmentedEventStore

end EventStore
