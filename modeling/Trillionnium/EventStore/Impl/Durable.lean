import Trillionnium.EventStore.Impl.Record
import Trillionnium.Log.Lines

namespace EventStore

open Json

structure Recovered where
  records : List EventRecord
  byKey : HashMap EventKey Nat
  nextTurnSeq : HashMap TurnScope Nat
  byteCount : Nat
  lastRecordSha256 : String

namespace Recovered

def empty : Recovered where
  records := []
  byKey := ∅
  nextTurnSeq := ∅
  byteCount := 0
  lastRecordSha256 := zeroSha256

def publish (state : Recovered) (record : EventRecord) (nextTurnSeq consumed : Nat) : Recovered where
  records := state.records ++ [record]
  byKey := state.byKey.insert record.key state.records.length
  nextTurnSeq := state.nextTurnSeq.insert record.scope nextTurnSeq
  byteCount := state.byteCount + consumed
  lastRecordSha256 := record.recordSha256

end Recovered

structure Reserved where
  record : EventRecord
  encoded : Bytes
  nextTurnSeq : Nat

inductive Reservation where
  | existing (record : EventRecord)
  | reserved (r : Reserved)

variable (ext : Externals) (limits : EventStoreLimits)

def Recovered.nextRecord (state : Recovered) (input : EventInput) : EventRecord :=
  let record : EventRecord := {
    schema := eventRecordSchema
    storeSeq := state.records.length
    turnSeq := HashMap.getD state.nextTurnSeq input.scope 0
    scope := input.scope
    eventId := input.eventId
    kind := input.kind
    payload := input.payload
    payloadSha256 := payloadDigest ext input.payload
    previousRecordSha256 := state.lastRecordSha256
    recordSha256 := ""
  }
  { record with recordSha256 := recordDigest ext record }

def Recovered.reserve (state : Recovered) (input : EventInput) : Except EventStoreError Reservation :=
  match state.byKey.lookup ⟨input.scope, input.eventId⟩ with
  | some index =>
    match state.records[index]? with
    | none => .error .statePoisoned
    | some existing =>
      if existing.kind = input.kind ∧ existing.payloadSha256 = payloadDigest ext input.payload
          ∧ (existing.payload == input.payload) = true then
        .ok (.existing existing)
      else
        .error .eventConflict
  | none => do
    if state.records.length ≥ limits.maxRecords then
      .error .capacityExhausted
    else
      match checkedAdd (HashMap.getD state.nextTurnSeq input.scope 0) 1 with
      | none => .error .capacityExhausted
      | some nextTurnSeq =>
        let record := state.nextRecord ext input
        validateRecord ext record limits
        let encoded := encodeRecord ext record
        if encoded = [] ∨ encoded.length > limits.maxRecordBytes then
          .error .capacityExhausted
        else
          let encoded := Log.frame encoded
          match checkedAdd state.byteCount encoded.length with
          | none => .error .capacityExhausted
          | some total =>
            if total ≤ limits.maxStoreBytes then
              .ok (.reserved { record := record, encoded := encoded, nextTurnSeq := nextTurnSeq })
            else
              .error .capacityExhausted

structure AppendIo where
  /-- The first error of the identity and metadata checks before anything is written. -/
  live : Option EventStoreError
  /-- A failed write leaves a number of bytes of the record behind. -/
  write : Option (Nat × String)
  /-- The first error of the sync and of the identity and metadata checks after the write. -/
  written : Option EventStoreError

def AppendIo.success : AppendIo := { live := none, write := none, written := none }

namespace DurableEventStore

structure State extends Recovered where
  file : Bytes
  poisoned : Bool

def State.poison (state : State) : State := { state with poisoned := true }

def State.fresh : State := { Recovered.empty with file := [], poisoned := false }

def lockLive (io : AppendIo) (state : State) : Except EventStoreError Unit × State :=
  if state.poisoned then
    (.error .poisoned, state)
  else
    match io.live with
    | some e => (.error e, state.poison)
    | none =>
      if state.file.length ≠ state.byteCount then
        (.error .poisoned, state.poison)
      else
        (.ok (), state)

def commit (io : AppendIo) (r : Reserved) (state : State) :
    Except EventStoreError AppendResult × State :=
  match io.write with
  | some (n, e) =>
    (.error (.io e), { state with file := state.file ++ r.encoded.take n }.poison)
  | none =>
    let state := { state with file := state.file ++ r.encoded }
    match io.written with
    | some e => (.error e, state.poison)
    | none =>
      if state.file.length ≠ state.byteCount + r.encoded.length then
        (.error .poisoned, state.poison)
      else
        (.ok { disposition := .appended, record := r.record },
          { state with toRecovered := state.publish r.record r.nextTurnSeq r.encoded.length })

def append (io : AppendIo) (input : EventInput) (state : State) :
    Except EventStoreError AppendResult × State :=
  match validateEventInput input limits with
  | .error e => (.error e, state)
  | .ok () =>
    match lockLive io state with
    | (.error e, state) => (.error e, state)
    | (.ok (), state) =>
      match state.reserve ext limits input with
      | .error e => (.error e, state)
      | .ok (.existing record) => (.ok { disposition := .existing, record := record }, state)
      | .ok (.reserved r) => commit io r state

def replay (io : AppendIo) (scope : TurnScope) (inclusiveTurnSeq : Nat) (state : State) :
    Except EventStoreError (List EventRecord) × State :=
  match validateScope scope limits with
  | .error e => (.error e, state)
  | .ok () =>
    match lockLive io state with
    | (.error e, state) => (.error e, state)
    | (.ok (), state) =>
      (.ok (state.records.filter
        (fun record => record.scope = scope ∧ record.turnSeq ≥ inclusiveTurnSeq)), state)

def allRecords (io : AppendIo) (state : State) : Except EventStoreError (List EventRecord) × State :=
  match lockLive io state with
  | (.error e, state) => (.error e, state)
  | (.ok (), state) => (.ok state.records, state)

end DurableEventStore

def readAheadLimit (maximum : Nat) : Except EventStoreError Nat :=
  if maximum = 0 ∨ maximum > maxEventRecordBytes then
    .error .capacityExhausted
  else
    match checkedAdd maximum 2 with
    | none => .error .capacityExhausted
    | some limit => .ok limit

def readRecordLine (maximum : Nat) (input : Bytes) :
    Except EventStoreError (Option (Bytes × Nat) × Bytes) := do
  let readAhead ← readAheadLimit maximum
  let (line, rest) := Log.readUntil readAhead input
  if line = [] then
    return (none, rest)
  else if line.getLast? ≠ some 10 then
    .error .truncatedRecord
  else
    let consumed := line.length
    let line := line.dropLast
    if line = [] ∨ line.length > maximum then
      .error (.invalidRecord "event record is empty or oversized")
    else
      return (some (line, consumed), rest)

def Recovered.replayLine (storeSeqMessage : String) (segmentFull : Bool) (state : Recovered)
    (line : Bytes) (consumed : Nat) : Except EventStoreError (EventRecord × Recovered) :=
  match checkedAdd state.byteCount consumed with
  | none => .error .capacityExhausted
  | some total =>
    if total > limits.maxStoreBytes then
      .error .capacityExhausted
    else if state.records.length ≥ limits.maxRecords ∨ segmentFull = true then
      .error .capacityExhausted
    else
      match decodeRecord ext line with
      | .error e => .error (.invalidRecord e.toString)
      | .ok record => do
        validateRecord ext record limits
        let expectedTurnSeq := HashMap.getD state.nextTurnSeq record.scope 0
        if record.storeSeq ≠ state.records.length then
          .error (.invalidRecord storeSeqMessage)
        else if record.turnSeq ≠ expectedTurnSeq then
          .error (.invalidRecord "turn sequence is not contiguous")
        else if record.previousRecordSha256 ≠ state.lastRecordSha256 then
          .error (.invalidRecord "previous record digest does not match the chain")
        else if (state.byKey.lookup record.key).isSome then
          .error (.invalidRecord "event identity is duplicated on disk")
        else
          match checkedAdd expectedTurnSeq 1 with
          | none => .error (.invalidRecord "turn sequence exhausted")
          | some nextTurnSeq => .ok (record, state.publish record nextTurnSeq consumed)

def recoverLine (state : Recovered) (line : Bytes) (consumed : Nat) :
    Except EventStoreError Recovered :=
  (state.replayLine ext limits "store sequence is not contiguous" false line consumed).map (·.2)

def recoverRecords (file : Bytes) : Except EventStoreError Recovered :=
  Log.whileLet (readRecordLine limits.maxRecordBytes)
    (fun state item => (recoverLine ext limits state item.1 item.2).map .yield)
    (file.length + 1) file Recovered.empty

namespace DurableEventStore

def openFile (file : Bytes) : Except EventStoreError State := do
  limits.validate
  if file.length > limits.maxStoreBytes then
    .error .capacityExhausted
  else
    let recovered ← recoverRecords ext limits file
    if file.length ≠ recovered.byteCount then
      .error (.invalidRecord "store length changed during recovery")
    else
      return { recovered with file := file, poisoned := false }

def rereadLiveRecords (state : State) : Except EventStoreError (List EventRecord) × State :=
  if state.poisoned then
    (.error .poisoned, state)
  else
    match recoverRecords ext limits state.file with
    | .error e => (.error e, state.poison)
    | .ok recovered =>
      if recovered.byteCount ≠ state.file.length ∨ (recovered.records == state.records) = false then
        (.error .eventConflict, state.poison)
      else
        (.ok recovered.records, state)

end DurableEventStore

end EventStore
