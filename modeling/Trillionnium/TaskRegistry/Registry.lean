import Trillionnium.Data.BTreeMap
import Trillionnium.Json.Object
import Trillionnium.Text.Checks

/-!
The registry of tasks and of the approvals that are requested for them. Clock readings and generated
identifiers are arguments of the calls.
-/

namespace TaskRegistry

open Json

inductive TaskStatus where
  | created
  | running
  | waitingForApproval
  | indeterminate
  | completed
  | failed
  | cancelled
  deriving DecidableEq

def TaskStatus.isTerminal (status : TaskStatus) : Bool :=
  status ∈ [.indeterminate, .completed, .failed, .cancelled]

structure TaskInput where
  title : String
  description : Option String
  metadata : Document

structure TaskView where
  id : String
  title : String
  description : Option String
  status : TaskStatus
  createdAtUnixMs : Nat
  updatedAtUnixMs : Nat
  metadata : Document

inductive ApprovalStatus where
  | pending
  | approved
  | denied
  deriving DecidableEq

inductive ApprovalLifetime where
  | oneCall
  | currentTask
  | currentSession
  | untilReboot
  | persistent
  | neverAllow
  deriving DecidableEq

def ApprovalLifetime.debug : ApprovalLifetime → String
  | .oneCall => "OneCall"
  | .currentTask => "CurrentTask"
  | .currentSession => "CurrentSession"
  | .untilReboot => "UntilReboot"
  | .persistent => "Persistent"
  | .neverAllow => "NeverAllow"

structure ApprovalSubmission where
  taskId : String
  toolCallId : Option String
  toolName : String
  reason : String

structure ApprovalRequest where
  id : String
  taskId : String
  toolCallId : String
  toolName : String
  reason : String
  status : ApprovalStatus
  createdAtUnixMs : Nat
  decidedAtUnixMs : Option Nat
  decisionReason : Option String
  toolManifestSha256 : Option String

structure ApprovalGrant where
  toolName : String
  toolCallId : Option String
  taskId : Option String
  lifetime : ApprovalLifetime

def ApprovalGrant.scoped (toolName toolCallId taskId : String) (lifetime : ApprovalLifetime) :
    ApprovalGrant where
  toolName := toolName
  toolCallId := if lifetime = .oneCall then some toolCallId else none
  taskId := if lifetime = .currentTask then some taskId else none
  lifetime := lifetime

def trim (text : String) : String :=
  let front := text.toList.dropWhile Text.isWhitespace
  String.ofList (front.reverse.dropWhile Text.isWhitespace).reverse

def TaskView.setLastApprovalMetadata (task : TaskView) (approvalId status : String) : TaskView :=
  let metadata := if task.metadata.isObject then task.metadata else .object []
  { task with
    metadata := metadata.insert "last_approval" (.object [
      ("approval_id", .ofString approvalId), ("status", .ofString status)]) }

structure Registry where
  tasks : BTreeMap String TaskView
  approvals : BTreeMap String ApprovalRequest

namespace Registry

def isOpen (registry : Registry) (taskId : String) : Bool :=
  registry.tasks[taskId]?.any fun task => !task.status.isTerminal

def createTask (registry : Registry) (id : String) (now : Nat) (input : TaskInput) :
    TaskView × Registry :=
  let title := trim input.title
  let task := {
    id
    title := if title.isEmpty then "Untitled task" else title
    description := input.description
    status := .created
    createdAtUnixMs := now
    updatedAtUnixMs := now
    metadata := input.metadata }
  (task, { registry with tasks := registry.tasks.insert id task })

def updateTaskStatus (registry : Registry) (now : Nat) (taskId : String) (status : TaskStatus) :
    Option (TaskView × Registry) := do
  let task ← registry.tasks[taskId]?
  if task.status.isTerminal ∧ task.status ≠ status then
    none
  else if task.status = .running ∧ status = .cancelled then
    none
  else
    let task := { task with status, updatedAtUnixMs := now }
    some (task, { registry with tasks := registry.tasks.insert taskId task })

def claimTaskForExecution (registry : Registry) (now : Nat) (taskId : String) :
    Option (TaskView × Registry) := do
  let task ← registry.tasks[taskId]?
  if task.status = .running ∨ task.status.isTerminal then
    none
  else
    let task := { task with status := .running, updatedAtUnixMs := now }
    some (task, { registry with tasks := registry.tasks.insert taskId task })

def terminates (taskId : String) (approval : ApprovalRequest) : Bool :=
  approval.taskId == taskId && approval.status == .pending

def terminated (now : Nat) (reason : String) (approval : ApprovalRequest) : ApprovalRequest :=
  { approval with
    status := .denied
    decidedAtUnixMs := some now
    decisionReason := some reason }

def terminatePendingApprovals (registry : Registry) (now : Nat) (taskId reason : String) :
    List ApprovalRequest × Registry :=
  ((registry.approvals.toList.map Prod.snd).filter (terminates taskId) |>.map (terminated now reason),
    { registry with
      approvals := registry.approvals.map fun _ approval =>
        if terminates taskId approval then terminated now reason approval else approval })

def cancelTask (registry : Registry) (now terminatedAt : Nat) (taskId : String) :
    Option (TaskView × Registry) := do
  let (task, registry) ← registry.updateTaskStatus now taskId .cancelled
  some (task, (registry.terminatePendingApprovals terminatedAt taskId
    "task cancelled before approval execution").2)

def requestApproval (registry : Registry) (id toolCallId : String) (now : Nat)
    (submission : ApprovalSubmission) : Option (ApprovalRequest × Registry) :=
  if registry.isOpen submission.taskId then
    let request := {
      id
      taskId := submission.taskId
      toolCallId := submission.toolCallId.getD toolCallId
      toolName := submission.toolName
      reason := submission.reason
      status := .pending
      createdAtUnixMs := now
      decidedAtUnixMs := none
      decisionReason := none
      toolManifestSha256 := none }
    some (request, {
      tasks := registry.tasks.modify submission.taskId fun task =>
        { task with status := .waitingForApproval, updatedAtUnixMs := now }
      approvals := registry.approvals.insert id request })
  else
    none

def bindApprovalManifest (registry : Registry) (approvalId toolManifestSha256 : String) :
    Option (ApprovalRequest × Registry) := do
  let request ← registry.approvals[approvalId]?
  if request.status ≠ .pending ∨ request.toolManifestSha256.isSome then
    none
  else
    let request := { request with toolManifestSha256 := some toolManifestSha256 }
    some (request, { registry with approvals := registry.approvals.insert approvalId request })

def approveWithLifetime (registry : Registry) (decidedAt now : Nat) (approvalId : String)
    (lifetime : ApprovalLifetime) : Option ((ApprovalRequest × ApprovalGrant) × Registry) := do
  let request ← registry.approvals[approvalId]?
  if request.status ≠ .pending then
    none
  else if registry.isOpen request.taskId then
    let request := { request with
      status := .approved
      decidedAtUnixMs := some decidedAt
      decisionReason := some s!"approved by OS authority ({lifetime.debug})" }
    let grant := ApprovalGrant.scoped request.toolName request.toolCallId request.taskId lifetime
    some ((request, grant), {
      tasks := registry.tasks.modify request.taskId fun task =>
        { task with updatedAtUnixMs := now }.setLastApprovalMetadata request.id "approved"
      approvals := registry.approvals.insert approvalId request })
  else
    none

def deny (registry : Registry) (decidedAt now : Nat) (approvalId reason : String) :
    Option (ApprovalRequest × Registry) := do
  let request ← registry.approvals[approvalId]?
  if request.status ≠ .pending then
    none
  else
    let request := { request with
      status := .denied
      decidedAtUnixMs := some decidedAt
      decisionReason := some reason }
    some (request, {
      tasks := registry.tasks.modify request.taskId fun task =>
        { task with status := .failed, updatedAtUnixMs := now }.setLastApprovalMetadata request.id
          "denied"
      approvals := registry.approvals.insert approvalId request })

end Registry

inductive Op where
  | createTask (id : String) (now : Nat) (input : TaskInput)
  | updateTaskStatus (now : Nat) (taskId : String) (status : TaskStatus)
  | claimTaskForExecution (now : Nat) (taskId : String)
  | cancelTask (now terminatedAt : Nat) (taskId : String)
  | terminatePendingApprovals (now : Nat) (taskId reason : String)
  | requestApproval (id toolCallId : String) (now : Nat) (submission : ApprovalSubmission)
  | bindApprovalManifest (approvalId toolManifestSha256 : String)
  | approveWithLifetime (decidedAt now : Nat) (approvalId : String) (lifetime : ApprovalLifetime)
  | deny (decidedAt now : Nat) (approvalId reason : String)

inductive Answer where
  | task (result : Option TaskView)
  | terminated (requests : List ApprovalRequest)
  | approval (result : Option ApprovalRequest)
  | granted (result : Option (ApprovalRequest × ApprovalGrant))

namespace Registry

def settle {α : Type} (registry : Registry) (answer : Option α → Answer)
    (result : Option (α × Registry)) : Registry × Answer :=
  ((result.map Prod.snd).getD registry, answer (result.map Prod.fst))

def step (registry : Registry) : Op → Registry × Answer
  | .createTask id now input =>
    ((registry.createTask id now input).2, .task (registry.createTask id now input).1)
  | .updateTaskStatus now taskId status =>
    registry.settle .task (registry.updateTaskStatus now taskId status)
  | .claimTaskForExecution now taskId =>
    registry.settle .task (registry.claimTaskForExecution now taskId)
  | .cancelTask now terminatedAt taskId =>
    registry.settle .task (registry.cancelTask now terminatedAt taskId)
  | .terminatePendingApprovals now taskId reason =>
    ((registry.terminatePendingApprovals now taskId reason).2,
      .terminated (registry.terminatePendingApprovals now taskId reason).1)
  | .requestApproval id toolCallId now submission =>
    registry.settle .approval (registry.requestApproval id toolCallId now submission)
  | .bindApprovalManifest approvalId toolManifestSha256 =>
    registry.settle .approval (registry.bindApprovalManifest approvalId toolManifestSha256)
  | .approveWithLifetime decidedAt now approvalId lifetime =>
    registry.settle .granted (registry.approveWithLifetime decidedAt now approvalId lifetime)
  | .deny decidedAt now approvalId reason =>
    registry.settle .approval (registry.deny decidedAt now approvalId reason)

end Registry

end TaskRegistry
