import Trillionnium.Data.HashMap
import Trillionnium.Json.Document

/-!
The data types of the owner-open event store: limits and configuration, turn scopes, event inputs
and event records.
-/

namespace EventStore

open Json

inductive EventStoreError where
  | invalidConfiguration (message : String)
  | unsafePath (message : String)
  | writerBusy
  | io (message : String)
  | invalidRecord (message : String)
  | truncatedRecord
  | eventConflict
  | capacityExhausted
  | poisoned
  | statePoisoned
  deriving DecidableEq, Repr

namespace EventStoreError

def toString : EventStoreError → String
  | .invalidConfiguration message => s!"invalid owner-open event-store configuration: {message}"
  | .unsafePath message => s!"owner-open event-store path is unsafe: {message}"
  | .writerBusy => "owner-open event-store is already owned by another writer"
  | .io message => s!"owner-open event-store I/O failed: {message}"
  | .invalidRecord message => s!"owner-open event-store record is invalid: {message}"
  | .truncatedRecord => "owner-open event-store contains a truncated final record"
  | .eventConflict => "owner-open event ID conflicts with previously stored bytes"
  | .capacityExhausted => "owner-open event-store capacity is exhausted"
  | .poisoned => "owner-open event-store entered an indeterminate write state"
  | .statePoisoned => "owner-open event-store state lock is poisoned"

end EventStoreError

inductive SyncPolicy where
  | none
  | data
  | full
  deriving DecidableEq, Repr

inductive RecoveryPolicy where
  | strict
  | repairTrailingPartial
  deriving DecidableEq, Repr

def maxEventStoreBytes : Nat := 1024 * 1024 * 1024
def maxEventRecordBytes : Nat := 64 * 1024 * 1024
def maxEventRecords : Nat := 1048576
def maxEventIdBytes : Nat := 4 * 1024
def maxEventKindBytes : Nat := 4 * 1024
def maxSegmentBytes : Nat := maxEventStoreBytes
def maxSegmentRecords : Nat := maxEventRecords
def maxEventSegments : Nat := 1024
def maxGroupCommitRecords : Nat := maxEventRecords
def maxGroupCommitBytes : Nat := 256 * 1024 * 1024

def maxGroupCommitInterval : Nat := 24 * 60 * 60 * 1000000000

structure EventStoreLimits where
  maxStoreBytes : Nat
  maxRecordBytes : Nat
  maxRecords : Nat
  maxIdBytes : Nat
  maxKindBytes : Nat
  deriving DecidableEq, Repr

namespace EventStoreLimits

def default : EventStoreLimits where
  maxStoreBytes := 512 * 1024 * 1024
  maxRecordBytes := 32 * 1024 * 1024
  maxRecords := 1000000
  maxIdBytes := 256
  maxKindBytes := 256

def validate (limits : EventStoreLimits) : Except EventStoreError Unit :=
  if limits.maxStoreBytes = 0
      ∨ limits.maxRecordBytes = 0
      ∨ limits.maxRecords = 0
      ∨ limits.maxIdBytes = 0
      ∨ limits.maxKindBytes = 0 then
    .error (.invalidConfiguration "event-store limits must be non-zero")
  else if limits.maxStoreBytes > maxEventStoreBytes
      ∨ limits.maxRecordBytes > maxEventRecordBytes
      ∨ limits.maxRecords > maxEventRecords
      ∨ limits.maxIdBytes > maxEventIdBytes
      ∨ limits.maxKindBytes > maxEventKindBytes then
    .error (.invalidConfiguration
      s!"event-store limits exceed hard bounds (store <= {maxEventStoreBytes}, record <= {maxEventRecordBytes}, records <= {maxEventRecords}, id <= {maxEventIdBytes}, kind <= {maxEventKindBytes})")
  else if limits.maxRecordBytes > limits.maxStoreBytes then
    .error (.invalidConfiguration "event record bound cannot exceed the store byte bound")
  else
    .ok ()

end EventStoreLimits

structure SegmentedEventStoreConfig where
  limits : EventStoreLimits
  maxSegmentBytes : Nat
  maxSegmentRecords : Nat
  groupCommitRecords : Nat
  groupCommitBytes : Nat
  groupCommitInterval : Nat
  syncPolicy : SyncPolicy
  recovery : RecoveryPolicy
  deriving DecidableEq, Repr

namespace SegmentedEventStoreConfig

def default : SegmentedEventStoreConfig where
  limits := EventStoreLimits.default
  maxSegmentBytes := 64 * 1024 * 1024
  maxSegmentRecords := 100000
  groupCommitRecords := 64
  groupCommitBytes := 1024 * 1024
  groupCommitInterval := 10 * 1000000
  syncPolicy := .data
  recovery := .strict

def new (limits : EventStoreLimits) : SegmentedEventStoreConfig := { default with limits := limits }

def validate (config : SegmentedEventStoreConfig) : Except EventStoreError Unit := do
  config.limits.validate
  if config.maxSegmentBytes = 0
      ∨ config.maxSegmentRecords = 0
      ∨ config.groupCommitRecords = 0
      ∨ config.groupCommitBytes = 0
      ∨ config.groupCommitInterval = 0 then
    .error (.invalidConfiguration "segmented event-store bounds must all be non-zero")
  else if config.maxSegmentBytes > EventStore.maxSegmentBytes
      ∨ config.maxSegmentRecords > EventStore.maxSegmentRecords
      ∨ config.groupCommitRecords > maxGroupCommitRecords
      ∨ config.groupCommitBytes > maxGroupCommitBytes
      ∨ config.groupCommitInterval > maxGroupCommitInterval then
    .error (.invalidConfiguration
      s!"segmented event-store bounds exceed hard limits (segment bytes <= {EventStore.maxSegmentBytes}, segment records <= {EventStore.maxSegmentRecords}, group records <= {maxGroupCommitRecords}, group bytes <= {maxGroupCommitBytes}, group interval <= 86400s)")
  else if config.maxSegmentBytes > config.limits.maxStoreBytes then
    .error (.invalidConfiguration "segment byte bound cannot exceed the store byte bound")
  else
    .ok ()

end SegmentedEventStoreConfig

structure TurnScope where
  sessionId : String
  profileId : String
  taskId : String
  turnId : String
  turnStreamId : String
  deriving DecidableEq, Repr

structure EventInput where
  scope : TurnScope
  eventId : String
  kind : String
  payload : Document

@[ext]
structure EventRecord where
  schema : String
  storeSeq : Nat
  turnSeq : Nat
  scope : TurnScope
  eventId : String
  kind : String
  payload : Document
  payloadSha256 : String
  previousRecordSha256 : String
  recordSha256 : String

namespace EventRecord

def beq (a b : EventRecord) : Bool :=
  a.schema == b.schema
    && a.storeSeq == b.storeSeq
    && a.turnSeq == b.turnSeq
    && a.scope == b.scope
    && a.eventId == b.eventId
    && a.kind == b.kind
    && a.payload == b.payload
    && a.payloadSha256 == b.payloadSha256
    && a.previousRecordSha256 == b.previousRecordSha256
    && a.recordSha256 == b.recordSha256

instance : BEq EventRecord := ⟨beq⟩

end EventRecord

inductive AppendDisposition where
  | appended
  | existing
  deriving DecidableEq, Repr

structure AppendResult where
  disposition : AppendDisposition
  record : EventRecord

structure EventKey where
  scope : TurnScope
  eventId : String
  deriving DecidableEq, Repr

def EventRecord.key (record : EventRecord) : EventKey := ⟨record.scope, record.eventId⟩

structure SegmentLocation where
  segmentId : Nat
  offset : Nat
  byteLen : Nat
  storeSeq : Nat
  deriving DecidableEq, Repr

def checkedAdd (a b : Nat) : Option Nat := if a + b < 2 ^ 64 then some (a + b) else none

end EventStore
