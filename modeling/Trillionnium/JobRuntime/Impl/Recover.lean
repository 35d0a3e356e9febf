import Trillionnium.JobRuntime.Impl.Journal

namespace JobRuntime

open EventStore Json JobRegistry

structure Recovering where
  operations : HashMap OperationKey OperationState
  jobs : HashMap JobKey JobState
  requests : HashMap JobKey JobRequest

namespace Recovering

def empty : Recovering := ⟨∅, ∅, ∅⟩

def bindRequest (recovering : Recovering) (key : JobKey) (request : JobRequest) :
    Except String Recovering :=
  match recovering.requests.lookup key with
  | some existing =>
    if existing ≠ request then
      .error "job journal request binding conflicts for job"
    else
      .ok recovering
  | none => .ok { recovering with requests := recovering.requests.insert key request }

def jobOrFresh (recovering : Recovering) (key : JobKey) (request : JobRequest) : JobState :=
  (recovering.jobs.lookup key).getD (.fresh request)

def setJob (recovering : Recovering) (key : JobKey) (job : JobState) : Recovering :=
  { recovering with jobs := recovering.jobs.insert key job }

def setOperation (recovering : Recovering) (key : OperationKey) (operation : OperationState) :
    Recovering :=
  { recovering with operations := recovering.operations.insert key operation }

def present (error : String) : Option String → Except String String
  | some s => .ok s
  | none => .error error

def operationOf (role : String) (key : JobKey) (envelope : JournalEnvelope) :
    Except String Operation := do
  let operationId ← present s!"{role} operation has no operation_id" envelope.operationId
  let operationKind ← present s!"{role} operation has no kind" envelope.operationKind
  let operationSha256 ← present s!"{role} operation has no digest" envelope.operationSha256
  return ⟨key, envelope.request, operationId, operationKind, operationSha256⟩

def acceptOperation (recovering : Recovering) (operation : Operation) : Except String Recovering :=
  match recovering.operations.lookup operation.operationKey with
  | some _ => .error "job operation accepted record is duplicated"
  | none =>
    let accepted := recovering.setOperation operation.operationKey (operation.accepted true true)
    if operation.isStart then
      .ok (accepted.setJob operation.key (recovering.jobOrFresh operation.key operation.request))
    else
      .ok accepted

def completeOperation (recovering : Recovering) (operation : Operation) (payload : Document) :
    Except String Recovering :=
  match recovering.operations.lookup operation.operationKey with
  | none => .error "operation terminal precedes acceptance"
  | some existing =>
    if ¬ operation.Matches existing ∨ existing.terminal.isSome then
      .error "job operation terminal conflicts"
    else
      let completed := recovering.setOperation operation.operationKey
        { existing with terminal := some payload }
      if operation.isStart then
        let job := recovering.jobOrFresh operation.key operation.request
        .ok (completed.setJob operation.key { job with startResult := some payload })
      else
        .ok completed

def observation (recovering : Recovering) (key : JobKey) (envelope : JournalEnvelope) :
    Recovering :=
  recovering.setJob key (recovering.jobOrFresh key envelope.request)

def jobTerminal (recovering : Recovering) (key : JobKey) (envelope : JournalEnvelope) :
    Except String Recovering :=
  let job := recovering.jobOrFresh key envelope.request
  if job.terminal.isSome then
    .error "job terminal record is duplicated"
  else
    .ok (recovering.setJob key { job with terminal := some envelope.payload })

def dispatch (recovering : Recovering) (key : JobKey) (envelope : JournalEnvelope) :
    Except String Recovering :=
  match envelope.record with
  | "operation.accepted" => do
    recovering.acceptOperation (← operationOf "accepted" key envelope)
  | "operation.terminal" => do
    recovering.completeOperation (← operationOf "terminal" key envelope) envelope.payload
  | "observation" => .ok (recovering.observation key envelope)
  | "job.terminal" => recovering.jobTerminal key envelope
  | other => .error s!"unsupported job journal record {other}"

def enter (recovering : Recovering) (key : JobKey) (envelope : JournalEnvelope) :
    Except String Recovering := do
  let recovering ← recovering.bindRequest key envelope.request
  recovering.dispatch key envelope

def record (recovering : Recovering) (event : EventInput) : Except String Recovering := do
  let envelope ← (JournalEnvelope.ofDocument event.payload).mapError Error.toString
  if envelope.schema ≠ jobJournalSchema then
    .error "job journal schema does not match"
  else
    let key := jobKeyOf event.scope envelope.jobId
    if event.scope ≠ turnScope key then
      .error "job journal record scope does not match payload"
    else
      recovering.enter key envelope

end Recovering

def recover (log : EventLog) : Except String Recovering := log.foldlM Recovering.record .empty

def JournalState.openStore (log : EventLog) : JournalState :=
  match recover log with
  | .ok recovered => ⟨true, true, none, recovered.operations, recovered.jobs⟩
  | .error error => ⟨false, true, some error, ∅, ∅⟩

def JournalState.unavailable (error : String) : JournalState := ⟨false, true, some error, ∅, ∅⟩

end JobRuntime
