import Trillionnium.Machine.Run
import Trillionnium.JobRuntime.Impl.Recover

/-!
The journal with its store and its lanes as a machine. The calls of the clients interleave between the
appends, and a restart may lose the records that were not synced yet.
-/

namespace JobRuntime

open EventStore Json JobRegistry

def journalShardCount : Nat := 64

def journalShardHashVersion : UInt8 := 1

def stableJournalShardIndex (key : JobKey) : Fin journalShardCount :=
  let fields := [key.scope.sessionId, key.scope.profileId, key.scope.taskId, key.scope.turnId,
    key.scope.turnStreamId, key.jobId]
  let hash := fields.foldl
    (fun hash field => Fnv.feed (Fnv.feed hash (Fnv.leBytes (utf8 field).length)) (utf8 field))
    (Fnv.feed Fnv.offsetBasis [journalShardHashVersion])
  ⟨hash.toNat % journalShardCount, Nat.mod_lt _ (by decide)⟩

inductive Call where
  | beginOperation (operation : Operation) (details : Document)
  | completeOperation (operation : Operation) (result : Document)
  | appendObservation (key : JobKey) (request : JobRequest) (eventSeq : Fin (2 ^ 64))
    (kind : String) (payload : Document)
  | recordJobTerminal (key : JobKey) (request : JobRequest) (eventSeq : Fin (2 ^ 64))
    (payload : Document)

namespace Call

def key : Call → JobKey
  | beginOperation operation _ => operation.key
  | completeOperation operation _ => operation.key
  | appendObservation key _ _ _ _ => key
  | recordJobTerminal key _ _ _ => key

def request : Call → JobRequest
  | beginOperation operation _ => operation.request
  | completeOperation operation _ => operation.request
  | appendObservation _ request _ _ _ => request
  | recordJobTerminal _ request _ _ => request

def lane (call : Call) : Fin journalShardCount := stableJournalShardIndex call.key

def validate : Call → Result Unit
  | beginOperation operation _ => operation.validate
  | completeOperation operation _ => operation.validate
  | appendObservation _ _ _ kind payload => do
    rewrap (requireText kind "observation kind" 256 false)
    let _ ← JournalState.terminalPayload kind payload
  | recordJobTerminal _ _ _ _ => .ok ()

def observedTerminal (kind : String) (payload : Document) : Option Document :=
  match JournalState.terminalPayload kind payload with
  | .ok terminal => terminal
  | .error _ => none

end Call

namespace JournalState

variable (codec : FloatCodec)

def enter (state : JournalState) : Call → JournalState × Phase
  | .beginOperation operation details => state.enterBegin codec operation details
  | .completeOperation operation result => state.enterComplete codec operation result
  | .appendObservation key request eventSeq kind payload =>
    state.enterObservation codec key request eventSeq kind payload
      (Call.observedTerminal kind payload)
  | .recordJobTerminal key request eventSeq payload =>
    state.enterJobTerminal codec key request eventSeq payload

def commit (state : JournalState) (call : Call) (stage : Stage) (appended : Except String Unit) :
    JournalState × Phase :=
  match call, stage with
  | .beginOperation operation _, _ => state.commitBegin operation appended
  | .completeOperation operation result, _ => state.commitComplete operation result appended
  | .appendObservation key request eventSeq kind payload, .first =>
    state.commitObservation codec key request eventSeq (Call.observedTerminal kind payload) appended
  | .appendObservation key request _ _ _, .terminal terminal =>
    state.commitObservedTerminal key request terminal appended
  | .recordJobTerminal key request _ payload, _ =>
    state.commitJobTerminal key request payload appended

end JournalState

structure Pending where
  call : Call
  stage : Stage
  input : EventInput
  mode : AppendMode
  appended : Option (Except String Unit)

structure Journal where
  state : JournalState
  log : EventLog
  synced : Nat
  lanes : Fin journalShardCount → Option Pending

namespace Journal

inductive Op where
  | call (call : Call)
  | append (lane : Fin journalShardCount) (answer : StoreAnswer)
  | commit (lane : Fin journalShardCount)
  | recoveredJob (key : JobKey)
  | restart (kept : Nat)
  | openFailed (error : String)

inductive Answer where
  /-- The lane is taken, or it has nothing to append or to commit. -/
  | blocked
  | waiting
  | answered (call : Call) (result : Result Reply)
  | recovered (job : Option RecoveredJob)
  | opened (status : JournalStatus)

def setLane (journal : Journal) (lane : Fin journalShardCount) (pending : Option Pending) :
    Fin journalShardCount → Option Pending :=
  Function.update journal.lanes lane pending

def openStore (log : EventLog) (synced : Nat) : Journal where
  state := .openStore log
  log := log
  synced := synced
  lanes := fun _ => none

variable (codec : FloatCodec)

def proceed (journal : Journal) (call : Call) : JournalState × Phase → Journal × Answer
  | (state, .answered result) =>
    ({ journal with state, lanes := journal.setLane call.lane none }, .answered call result)
  | (state, .append stage input mode) =>
    let pending := ⟨call, stage, input, mode, none⟩
    ({ journal with state, lanes := journal.setLane call.lane (some pending) }, .waiting)

def startCall (journal : Journal) (call : Call) : Journal × Answer :=
  match call.validate with
  | .error e => (journal, .answered call (.error e))
  | .ok () =>
    match journal.lanes call.lane with
    | some _ => (journal, .blocked)
    | none => journal.proceed call (journal.state.enter codec call)

def storeAnswers (journal : Journal) (lane : Fin journalShardCount) (answer : StoreAnswer) :
    Journal × Answer :=
  match journal.lanes lane with
  | some ⟨call, stage, input, mode, none⟩ =>
    let (appended, log) := journal.log.append input answer
    let synced :=
      match appended, mode with
      | .ok (), .durable => log.length
      | _, _ => journal.synced
    let lanes := journal.setLane lane (some ⟨call, stage, input, mode, some appended⟩)
    ({ journal with log, synced, lanes }, .waiting)
  | _ => (journal, .blocked)

def commitLane (journal : Journal) (lane : Fin journalShardCount) : Journal × Answer :=
  match journal.lanes lane with
  | some ⟨call, stage, _, _, some appended⟩ =>
    journal.proceed call (journal.state.commit codec call stage appended)
  | _ => (journal, .blocked)

def step (journal : Journal) : Op → Journal × Answer
  | .call call => journal.startCall codec call
  | .append lane answer => journal.storeAnswers lane answer
  | .commit lane => journal.commitLane codec lane
  | .recoveredJob key =>
    match journal.lanes (stableJournalShardIndex key) with
    | some _ => (journal, .blocked)
    | none => (journal, .recovered (journal.state.recoveredJob key))
  | .restart kept =>
    let opened := openStore (journal.log.take (max kept journal.synced)) journal.synced
    (opened, .opened opened.state.status)
  | .openFailed error =>
    ({ journal with state := .unavailable error, lanes := fun _ => none },
      .opened (JournalState.unavailable error).status)

end Journal

end JobRuntime
