import Trillionnium.JobRuntime.Impl.Envelope

/-!
The job journal. A call first takes the lane of its job. It then looks at the state of the journal
under a lock, appends to the event store without the lock and enters the outcome under the lock again,
so a call is split at its appends here.
-/

namespace JobRuntime

open EventStore Json JobRegistry

inductive JournalStatus where
  | durable
  | bestEffortMemoryOnly
  | unavailable (error : String)
  deriving DecidableEq, Repr

inductive OperationBegin where
  | new
  | existingTerminal (result : Document)
  | existingAccepted (restartUncertain : Bool)
  | unjournaled

structure RecoveredJob where
  key : JobKey
  request : JobRequest
  startResult : Option Document
  terminal : Option Document

structure OperationKey where
  job : JobKey
  operationId : String
  deriving DecidableEq

structure OperationState where
  request : JobRequest
  operationKind : String
  operationSha256 : String
  terminal : Option Document
  preexisting : Bool
  durableAccept : Bool

structure JobState where
  request : JobRequest
  startResult : Option Document
  terminal : Option Document

structure JournalState where
  store : Bool
  configured : Bool
  error : Option String
  operations : HashMap OperationKey OperationState
  jobs : HashMap JobKey JobState

structure Operation where
  key : JobKey
  request : JobRequest
  operationId : String
  operationKind : String
  operationSha256 : String
  deriving DecidableEq, Repr

namespace Operation

def operationKey (operation : Operation) : OperationKey := ⟨operation.key, operation.operationId⟩

def validate (operation : Operation) : Result Unit := do
  rewrap (requireId operation.operationId "operation_id" 256)
  rewrap (requireText operation.operationKind "operation_kind" 64 false)
  rewrap (requireSha256 operation.operationSha256 "operation_sha256")

def isStart (operation : Operation) : Bool := operation.operationKind == "start"

def accepted (operation : Operation) (preexisting durableAccept : Bool) : OperationState where
  request := operation.request
  operationKind := operation.operationKind
  operationSha256 := operation.operationSha256
  terminal := none
  preexisting := preexisting
  durableAccept := durableAccept

def Matches (operation : Operation) (existing : OperationState) : Prop :=
  existing.request = operation.request
    ∧ existing.operationKind = operation.operationKind
    ∧ existing.operationSha256 = operation.operationSha256

instance (operation : Operation) (existing : OperationState) :
    Decidable (operation.Matches existing) := by
  unfold Matches
  infer_instance

end Operation

def JobState.fresh (request : JobRequest) : JobState where
  request := request
  startResult := none
  terminal := none

inductive AppendMode where
  | durable
  | grouped
  deriving DecidableEq, Repr

inductive Reply where
  | began (answer : OperationBegin)
  | done

inductive Stage where
  | first
  | terminal (payload : Document)

inductive Phase where
  | answered (result : Result Reply)
  | append (stage : Stage) (input : EventInput) (mode : AppendMode)

namespace JournalState

def memoryOnly : JournalState := ⟨false, false, none, ∅, ∅⟩

def status (state : JournalState) : JournalStatus :=
  match state.store, state.configured, state.error with
  | true, _, _ => .durable
  | false, false, _ => .bestEffortMemoryOnly
  | false, true, some error => .unavailable error
  | false, true, none => .unavailable "job journal is unavailable"

def recoveredJob (state : JournalState) (key : JobKey) : Option RecoveredJob :=
  (state.jobs.lookup key).map fun job => ⟨key, job.request, job.startResult, job.terminal⟩

def ensureRequestForKey (state : JournalState) (key : JobKey) (request : JobRequest) :
    Result Unit :=
  if (state.jobs.lookup key).any (fun job => job.request ≠ request)
      ∨ state.operations.entries.any
        (fun entry => entry.1.job = key ∧ entry.2.request ≠ request) then
    .error .jobConflict
  else
    .ok ()

def disable (state : JournalState) (error : String) : JournalState :=
  { state with store := false, configured := true, error := some error }

def gone (state : JournalState) (reason : String) : JobRuntimeError :=
  .journal (state.error.getD reason)

def setOperation (state : JournalState) (key : OperationKey) (operation : OperationState) :
    JournalState :=
  { state with operations := state.operations.insert key operation }

def setJob (state : JournalState) (key : JobKey) (job : JobState) : JournalState :=
  { state with jobs := state.jobs.insert key job }

def insertOperation (state : JournalState) (operation : Operation)
    (preexisting durableAccept : Bool) : JournalState :=
  let inserted := state.setOperation operation.operationKey
    (operation.accepted preexisting durableAccept)
  if operation.isStart then
    inserted.setJob operation.key (.fresh operation.request)
  else
    inserted

def jobOrFresh (state : JournalState) (key : JobKey) (request : JobRequest) : JobState :=
  (state.jobs.lookup key).getD (.fresh request)

def bindJob (state : JournalState) (key : JobKey) (request : JobRequest) : JournalState :=
  state.setJob key (state.jobOrFresh key request)

def setTerminal (state : JournalState) (key : JobKey) (request : JobRequest) (payload : Document) :
    JournalState :=
  state.setJob key { state.jobOrFresh key request with terminal := some payload }

def markOperationUncertain (state : JournalState) (key : OperationKey) : JournalState :=
  match state.operations.lookup key with
  | none => state
  | some operation => state.setOperation key { operation with preexisting := true }

variable (codec : FloatCodec)

def acceptedInput (operation : Operation) (details : Document) : EventInput where
  scope := turnScope operation.key
  eventId := eventId codec "accepted" operation.key operation.operationId
  kind := s!"job.operation.accepted.{operation.operationKind}"
  payload := JournalEnvelope.toDocument {
    schema := jobJournalSchema
    record := "operation.accepted"
    jobId := operation.key.jobId
    request := operation.request
    operationId := some operation.operationId
    operationKind := some operation.operationKind
    operationSha256 := some operation.operationSha256
    eventSeq := none
    payload := details
  }

def terminalInput (operation : Operation) (result : Document) : EventInput where
  scope := turnScope operation.key
  eventId := eventId codec "terminal" operation.key operation.operationId
  kind := s!"job.operation.terminal.{operation.operationKind}"
  payload := JournalEnvelope.toDocument {
    schema := jobJournalSchema
    record := "operation.terminal"
    jobId := operation.key.jobId
    request := operation.request
    operationId := some operation.operationId
    operationKind := some operation.operationKind
    operationSha256 := some operation.operationSha256
    eventSeq := none
    payload := result
  }

def observationInput (key : JobKey) (request : JobRequest) (eventSeq : Fin (2 ^ 64)) (kind : String)
    (payload : Document) : EventInput where
  scope := turnScope key
  eventId := eventId codec "observation" key s!"{eventSeq.val}"
  kind := kind
  payload := JournalEnvelope.toDocument {
    schema := jobJournalSchema
    record := "observation"
    jobId := key.jobId
    request := request
    operationId := none
    operationKind := none
    operationSha256 := none
    eventSeq := some eventSeq
    payload := payload
  }

def jobTerminalInput (key : JobKey) (request : JobRequest) (eventSeq : Fin (2 ^ 64))
    (payload : Document) : EventInput where
  scope := turnScope key
  eventId := eventId codec "job-terminal" key "terminal"
  kind := "job.terminal"
  payload := JournalEnvelope.toDocument {
    schema := jobJournalSchema
    record := "job.terminal"
    jobId := key.jobId
    request := request
    operationId := none
    operationKind := none
    operationSha256 := none
    eventSeq := some eventSeq
    payload := payload
  }

def enterBegin (state : JournalState) (operation : Operation) (details : Document) :
    JournalState × Phase :=
  match state.ensureRequestForKey operation.key operation.request with
  | .error e => (state, .answered (.error e))
  | .ok () =>
    match state.operations.lookup operation.operationKey with
    | some existing =>
      if operation.Matches existing then
        match existing.terminal with
        | some terminal => (state, .answered (.ok (.began (.existingTerminal terminal))))
        | none => (state, .answered (.ok (.began (.existingAccepted existing.preexisting))))
      else
        (state, .answered (.error .jobConflict))
    | none =>
      match if operation.isStart then state.jobs.lookup operation.key else none with
      | some existing =>
        if existing.request ≠ operation.request then
          (state, .answered (.error .jobConflict))
        else
          (state, .answered (.ok (.began (.existingAccepted existing.startResult.isSome))))
      | none =>
        if state.store then
          (state, .append .first (acceptedInput codec operation details) .durable)
        else
          (state.insertOperation operation false false, .answered (.ok (.began .unjournaled)))

def commitBegin (state : JournalState) (operation : Operation) (appended : Except String Unit) :
    JournalState × Phase :=
  match appended with
  | .error error => (state.disable error, .answered (.error (.journal error)))
  | .ok () =>
    let degraded := !state.store
    (state.insertOperation operation degraded true,
      .answered (.ok (.began (if degraded then .existingAccepted true else .new))))

def commitOperationTerminal (state : JournalState) (operation : Operation) (result : Document) :
    JournalState × Result Reply :=
  match state.operations.lookup operation.operationKey with
  | none =>
    (state, .error (.journal "accepted operation presence changed before terminal commit"))
  | some existing =>
    match existing.terminal with
    | some terminal => (state, if terminal == result then .ok .done else .error .jobConflict)
    | none =>
      let completed :=
        state.setOperation operation.operationKey { existing with terminal := some result }
      match if operation.isStart then state.jobs.lookup operation.key else none with
      | none => (completed, .ok .done)
      | some job =>
        (completed.setJob operation.key { job with startResult := some result }, .ok .done)

def enterComplete (state : JournalState) (operation : Operation) (result : Document) :
    JournalState × Phase :=
  match state.ensureRequestForKey operation.key operation.request with
  | .error e => (state, .answered (.error e))
  | .ok () =>
    match state.operations.lookup operation.operationKey with
    | none =>
      (state, .answered (.error (.journal "operation terminal has no accepted record")))
    | some existing =>
      if operation.Matches existing then
        match existing.terminal with
        | some terminal =>
          (state, .answered (if terminal == result then .ok .done else .error .jobConflict))
        | none =>
          if state.store then
            (state, .append .first (terminalInput codec operation result) .durable)
          else if existing.durableAccept then
            (state.markOperationUncertain operation.operationKey, .answered (.error
              (state.gone "job journal became unavailable before operation terminal")))
          else if state.configured then
            (state.markOperationUncertain operation.operationKey, .answered (.error
              (state.gone "job journal is unavailable before terminal append")))
          else
            let (state, answer) := state.commitOperationTerminal operation result
            (state, .answered answer)
      else
        (state, .answered (.error .jobConflict))

def commitComplete (state : JournalState) (operation : Operation) (result : Document)
    (appended : Except String Unit) : JournalState × Phase :=
  match appended with
  | .error error =>
    ((state.markOperationUncertain operation.operationKey).disable error,
      .answered (.error (.journal error)))
  | .ok () =>
    if state.store then
      let (state, answer) := state.commitOperationTerminal operation result
      (state, .answered answer)
    else
      (state.markOperationUncertain operation.operationKey, .answered (.error
        (state.gone "job journal became unavailable after operation terminal append")))

def terminalPayload (kind : String) (payload : Document) : Result (Option Document) :=
  if kind = "job.terminal.observation" then
    match payload.get? "event" with
    | none => .error (.journal "terminal observation is missing its event payload")
    | some event =>
      match (event.get? "kind").map Document.value with
      | some (.string "terminal") => .ok (some event)
      | _ => .error (.journal "terminal observation payload is not terminal")
  else
    .ok none

def enterObservation (state : JournalState) (key : JobKey) (request : JobRequest)
    (eventSeq : Fin (2 ^ 64)) (kind : String) (payload : Document) (terminal : Option Document) :
    JournalState × Phase :=
  match state.ensureRequestForKey key request with
  | .error e => (state, .answered (.error e))
  | .ok () =>
    if state.store then
      (state, .append .first (observationInput codec key request eventSeq kind payload) .grouped)
    else if state.configured then
      (state, .answered (.error
        (state.gone "job journal is unavailable before observation append")))
    else
      let state := state.bindJob key request
      match terminal, (state.jobs.lookup key).bind JobState.terminal with
      | none, _ => (state, .answered (.ok .done))
      | some terminal, some existing =>
        (state, .answered (if existing == terminal then .ok .done else .error .jobConflict))
      | some terminal, none => (state.setTerminal key request terminal, .answered (.ok .done))

def commitObservation (state : JournalState) (key : JobKey) (request : JobRequest)
    (eventSeq : Fin (2 ^ 64)) (terminal : Option Document) (appended : Except String Unit) :
    JournalState × Phase :=
  match appended with
  | .error error => (state.disable error, .answered (.error (.journal error)))
  | .ok () =>
    let state := state.bindJob key request
    if state.store then
      match terminal with
      | none => (state, .answered (.ok .done))
      | some terminal =>
        match (state.jobs.lookup key).bind JobState.terminal with
        | some existing =>
          (state, .answered (if existing == terminal then .ok .done else .error .jobConflict))
        | none =>
          (state, .append (.terminal terminal)
            (jobTerminalInput codec key request eventSeq terminal) .durable)
    else
      (state, .answered (.error
        (state.gone "job journal became unavailable after observation append")))

def commitObservedTerminal (state : JournalState) (key : JobKey) (request : JobRequest)
    (terminal : Document) (appended : Except String Unit) : JournalState × Phase :=
  match appended with
  | .error error => (state.disable error, .answered (.error (.journal error)))
  | .ok () =>
    if state.store then
      (state.setTerminal key request terminal, .answered (.ok .done))
    else
      (state, .answered (.error
        (state.gone "job journal became unavailable after terminal append")))

def enterJobTerminal (state : JournalState) (key : JobKey) (request : JobRequest)
    (eventSeq : Fin (2 ^ 64)) (payload : Document) : JournalState × Phase :=
  match state.ensureRequestForKey key request with
  | .error e => (state, .answered (.error e))
  | .ok () =>
    match (state.jobs.lookup key).bind JobState.terminal with
    | some existing =>
      (state, .answered (if existing == payload then .ok .done else .error .jobConflict))
    | none =>
      if state.store then
        (state, .append .first (jobTerminalInput codec key request eventSeq payload) .durable)
      else if state.configured then
        (state, .answered (.error
          (state.gone "job journal is unavailable before terminal append")))
      else
        (state.setTerminal key request payload, .answered (.ok .done))

def commitJobTerminal (state : JournalState) (key : JobKey) (request : JobRequest)
    (payload : Document) (appended : Except String Unit) : JournalState × Phase :=
  match appended with
  | .error error => (state.disable error, .answered (.error (.journal error)))
  | .ok () =>
    if state.store then
      match (state.jobs.lookup key).bind JobState.terminal with
      | some existing =>
        (state, .answered (if existing == payload then .ok .done else .error .jobConflict))
      | none => (state.setTerminal key request payload, .answered (.ok .done))
    else
      (state, .answered (.error
        (state.gone "job journal became unavailable after terminal append")))

end JournalState

end JobRuntime
