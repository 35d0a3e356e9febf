import Trillionnium.Machine.Run
import Trillionnium.TaskRegistry.Registry

/-!
What the calls of the registry do to the status of a task: the execution lease, which is nothing but
the status `running`, and the statuses a task ends in.
-/

namespace TaskRegistry

namespace Registry

def statusOf (registry : Registry) (taskId : String) : Option TaskStatus :=
  registry.tasks[taskId]?.map TaskView.status

def Sets (registry next : Registry) (taskId : String) (status : TaskStatus) : Prop :=
  ∀ id, next.statusOf id = if taskId = id then some status else registry.statusOf id

inductive Writes (taskId : String) (old : TaskStatus) : Op → Answer → TaskStatus → Prop
  | kept : Writes taskId old op answer old
  | created : Writes taskId old (.createTask taskId now input) answer .created
  | updated (hend : old.isTerminal → old = status)
      (hcancel : ¬ (old = .running ∧ status = .cancelled)) :
      Writes taskId old (.updateTaskStatus now taskId status) (.task (some task)) status
  | claimed (hrunning : old ≠ .running) (hend : ¬ old.isTerminal) :
      Writes taskId old (.claimTaskForExecution now taskId) (.task (some task)) .running
  | cancelled (hend : old.isTerminal → old = .cancelled) (hrunning : old ≠ .running) :
      Writes taskId old (.cancelTask now terminatedAt taskId) (.task (some task)) .cancelled
  | requested (hend : ¬ old.isTerminal) (htask : request.taskId = taskId) :
      Writes taskId old (.requestApproval approvalId toolCallId now submission)
        (.approval (some request)) .waitingForApproval
  | denied (htask : request.taskId = taskId) :
      Writes taskId old (.deny decidedAt now approvalId reason) (.approval (some request)) .failed

variable {registry next : Registry} {ops : List Op} {taskId : String} {old status : TaskStatus}

theorem exists_of_statusOf (h : registry.statusOf taskId = some status) :
    ∃ task, registry.tasks[taskId]? = some task ∧ task.status = status :=
  Option.map_eq_some_iff.mp h

theorem sets_insert {task : TaskView} :
    Sets registry ⟨registry.tasks.insert taskId task, pending⟩ taskId task.status := by
  intro id
  unfold statusOf
  rw [Std.ExtTreeMap.getElem?_insert]
  by_cases h : taskId = id
  . simp [h]
  . simp [h]

theorem statusOf_modify {key : String} {f : TaskView → TaskView} :
    statusOf ⟨registry.tasks.modify key f, pending⟩ taskId
      = if key = taskId then registry.tasks[key]?.map (fun task => (f task).status)
        else registry.statusOf taskId := by
  unfold statusOf
  rw [Std.ExtTreeMap.getElem?_modify]
  by_cases h : key = taskId
  . simp [h, Function.comp_def]
  . simp [h]

theorem updateTaskStatus_spec
    (h : registry.updateTaskStatus now taskId status = some (task, next)) :
    Sets registry next taskId status
      ∧ ∀ old, registry.statusOf taskId = some old → (old.isTerminal → old = status)
        ∧ ¬ (old = .running ∧ status = .cancelled) := by
  unfold updateTaskStatus at h
  obtain ⟨found, hfound, h⟩ := Option.bind_eq_some_iff.mp h
  split at h
  . cases h
  next hend =>
    split at h
    . cases h
    next hcancel =>
      cases h
      refine ⟨sets_insert, ?_⟩
      intro old hold
      obtain ⟨_, htask, rfl⟩ := exists_of_statusOf hold
      obtain rfl := Option.some.inj (hfound.symm.trans htask)
      refine ⟨?_, hcancel⟩
      intro hterminal
      exact not_not.mp fun hne => hend ⟨hterminal, hne⟩

theorem cancelTask_spec (h : registry.cancelTask now terminatedAt taskId = some (task, next)) :
    Sets registry next taskId .cancelled
      ∧ ∀ old, registry.statusOf taskId = some old → (old.isTerminal → old = .cancelled)
        ∧ old ≠ .running := by
  unfold cancelTask at h
  obtain ⟨⟨cancelled, updated⟩, hupdate, h⟩ := Option.bind_eq_some_iff.mp h
  obtain ⟨hsets, hallowed⟩ := updateTaskStatus_spec hupdate
  cases h
  refine ⟨hsets, ?_⟩
  intro old hold
  exact ⟨(hallowed old hold).1, fun hrunning => (hallowed old hold).2 ⟨hrunning, rfl⟩⟩

theorem claimTaskForExecution_spec
    (h : registry.claimTaskForExecution now taskId = some (task, next)) :
    Sets registry next taskId .running
      ∧ ∀ old, registry.statusOf taskId = some old → old ≠ .running ∧ ¬ old.isTerminal := by
  unfold claimTaskForExecution at h
  obtain ⟨found, hfound, h⟩ := Option.bind_eq_some_iff.mp h
  split at h
  . cases h
  next hfree =>
    cases h
    refine ⟨sets_insert, ?_⟩
    intro old hold
    obtain ⟨_, htask, rfl⟩ := exists_of_statusOf hold
    obtain rfl := Option.some.inj (hfound.symm.trans htask)
    exact not_or.mp hfree

theorem not_terminal_of_isOpen (h : registry.isOpen taskId = true)
    (hold : registry.statusOf taskId = some old) : ¬ old.isTerminal := by
  obtain ⟨task, htask, rfl⟩ := exists_of_statusOf hold
  simpa [isOpen, htask] using h

theorem requestApproval_spec
    (h : registry.requestApproval approvalId toolCallId now submission = some (request, next)) :
    Sets registry next request.taskId .waitingForApproval
      ∧ ∀ old, registry.statusOf request.taskId = some old → ¬ old.isTerminal := by
  unfold requestApproval at h
  split at h
  next hopen =>
    cases h
    refine ⟨?_, fun _ => not_terminal_of_isOpen hopen⟩
    intro id
    unfold isOpen at hopen
    obtain ⟨task, htask, _⟩ := (Option.any_eq_true _ _).mp hopen
    rw [statusOf_modify, htask]
    rfl
  . cases h

theorem approveWithLifetime_spec
    (h : registry.approveWithLifetime decidedAt now approvalId lifetime = some (result, next)) :
    (∀ old, registry.statusOf result.1.taskId = some old → ¬ old.isTerminal)
      ∧ ∀ id, next.statusOf id = registry.statusOf id := by
  unfold approveWithLifetime at h
  obtain ⟨request, _, h⟩ := Option.bind_eq_some_iff.mp h
  split at h
  . cases h
  split at h
  next hopen =>
    cases h
    refine ⟨fun _ => not_terminal_of_isOpen hopen, ?_⟩
    intro id
    rw [statusOf_modify]
    split
    next heq =>
      subst heq
      rfl
    . rfl
  . cases h

theorem deny_spec (h : registry.deny decidedAt now approvalId reason = some (request, next))
    (id : String) :
    next.statusOf id = if request.taskId = id then (registry.statusOf id).map fun _ => .failed
      else registry.statusOf id := by
  unfold deny at h
  obtain ⟨found, _, h⟩ := Option.bind_eq_some_iff.mp h
  split at h
  . cases h
  cases h
  rw [statusOf_modify]
  split
  next heq =>
    subst heq
    simp [statusOf, Function.comp_def, TaskView.setLastApprovalMetadata]
  . rfl

theorem tasks_bindApprovalManifest
    (h : registry.bindApprovalManifest approvalId digest = some (request, next)) :
    next.tasks = registry.tasks := by
  unfold bindApprovalManifest at h
  obtain ⟨found, _, h⟩ := Option.bind_eq_some_iff.mp h
  split at h
  . cases h
  cases h
  rfl

section Step

variable (hold : registry.statusOf taskId = some old)

include hold

theorem Sets.writes (hsets : Sets registry next key status)
    (h : key = taskId → Writes taskId old op answer status) :
    ∃ new, next.statusOf taskId = some new ∧ Writes taskId old op answer new := by
  rw [hsets taskId]
  split
  next heq => exact ⟨status, rfl, h heq⟩
  . exact ⟨old, hold, .kept⟩

theorem settle_writes {answer : Option α → Answer} {result : Option (α × Registry)}
    (h : ∀ x next, result = some (x, next) →
      ∃ new, next.statusOf taskId = some new ∧ Writes taskId old op (answer (some x)) new) :
    ∃ new, (registry.settle answer result).1.statusOf taskId = some new
      ∧ Writes taskId old op (registry.settle answer result).2 new := by
  cases result with
  | none => exact ⟨old, hold, .kept⟩
  | some result => exact h result.1 result.2 rfl

theorem writes_step :
    ∃ new, (registry.step op).1.statusOf taskId = some new
      ∧ Writes taskId old op (registry.step op).2 new := by
  cases op with
  | createTask id now input =>
    apply sets_insert.writes hold
    rintro rfl
    exact .created
  | updateTaskStatus now id status =>
    apply settle_writes hold
    intro task next h
    obtain ⟨hsets, hallowed⟩ := updateTaskStatus_spec h
    apply hsets.writes hold
    rintro rfl
    exact .updated (hallowed old hold).1 (hallowed old hold).2
  | claimTaskForExecution now id =>
    apply settle_writes hold
    intro task next h
    obtain ⟨hsets, hallowed⟩ := claimTaskForExecution_spec h
    apply hsets.writes hold
    rintro rfl
    exact .claimed (hallowed old hold).1 (hallowed old hold).2
  | cancelTask now terminatedAt id =>
    apply settle_writes hold
    intro task next h
    obtain ⟨hsets, hallowed⟩ := cancelTask_spec h
    apply hsets.writes hold
    rintro rfl
    exact .cancelled (hallowed old hold).1 (hallowed old hold).2
  | terminatePendingApprovals now id reason => exact ⟨old, hold, .kept⟩
  | requestApproval id toolCallId now submission =>
    apply settle_writes hold
    intro request next h
    obtain ⟨hsets, hallowed⟩ := requestApproval_spec h
    apply hsets.writes hold
    rintro rfl
    exact .requested (hallowed old hold) rfl
  | bindApprovalManifest approvalId digest =>
    apply settle_writes hold
    intro request next h
    unfold statusOf at hold ⊢
    rw [tasks_bindApprovalManifest h]
    exact ⟨old, hold, .kept⟩
  | approveWithLifetime decidedAt now approvalId lifetime =>
    apply settle_writes hold
    intro result next h
    rw [(approveWithLifetime_spec h).2]
    exact ⟨old, hold, .kept⟩
  | deny decidedAt now approvalId reason =>
    apply settle_writes hold
    intro request next h
    rw [deny_spec h, hold]
    split
    next htask => exact ⟨.failed, rfl, .denied htask⟩
    . exact ⟨old, rfl, .kept⟩

end Step

theorem exists_of_settle {answer : Option α → Answer} {result : Option (α × Registry)} {x : α}
    (hinj : Function.Injective answer)
    (h : (registry.settle answer result).2 = answer (some x)) : ∃ next, result = some (x, next) := by
  obtain ⟨⟨y, next⟩, hresult, hy⟩ := Option.map_eq_some_iff.mp (hinj h)
  exact ⟨next, by rw [hresult, ← hy]⟩

section Runs

open Machine

/-- Task identifiers are random UUIDs: a new one names no task yet. -/
def FreshIds (registry : Registry) (ops : List Op) : Prop :=
  ∀ k id now input, ops[k]? = some (.createTask id now input)
    → (before step registry ops k).statusOf id = none

def Releases (registry : Registry) (ops : List Op) (taskId : String) (k : Nat) : Prop :=
  (before step registry ops k).statusOf taskId = some .running
    ∧ ∃ now status task, status ≠ .running
      ∧ At step registry ops k (.updateTaskStatus now taskId status) (.task (some task))

def Requests (taskId : String) : Op → Answer → Prop
  | .requestApproval _ _ _ _, .approval (some request) => request.taskId = taskId
  | _, _ => False

def Grants (taskId : String) : Op → Answer → Prop
  | .approveWithLifetime _ _ _ _, .granted (some (request, _)) => request.taskId = taskId
  | _, _ => False

def Denies (taskId : String) : Op → Answer → Prop
  | .deny _ _ _ _, .approval (some request) => request.taskId = taskId
  | _, _ => False

theorem FreshIds.not_created (hfresh : FreshIds registry ops)
    (hold : (before step registry ops k).statusOf taskId = some old) :
    ops[k]? ≠ some (.createTask taskId now input) := by
  intro hop
  rw [hfresh k taskId now input hop] at hold
  contradiction

def Held (registry : Registry) (taskId : String) : Prop :=
  registry.statusOf taskId = some .running ∨ registry.statusOf taskId = some .failed

theorem held_step (hfresh : FreshIds registry ops)
    (hheld : Held (before step registry ops k) taskId) (hrelease : ¬ Releases registry ops taskId k)
    (hrequest : ¬ Happens step registry ops (Requests taskId) k) (hop : ops[k]? = some op) :
    Held (step (before step registry ops k) op).1 taskId := by
  obtain ⟨old, hold, hcases⟩ : ∃ old, (before step registry ops k).statusOf taskId = some old
      ∧ (old = .running ∨ old = .failed) := by
    rcases hheld with h | h
    . exact ⟨_, h, .inl rfl⟩
    . exact ⟨_, h, .inr rfl⟩
  obtain ⟨new, hnew, hwrites⟩ := writes_step hold
  unfold Held
  rw [hnew, Option.some.injEq, Option.some.injEq]
  generalize hanswer : (step (before step registry ops k) op).2 = answer at hwrites
  cases hwrites with
  | kept => exact hcases
  | created => exact absurd hop (hfresh.not_created hold)
  | updated hend hcancel =>
    rcases hcases with rfl | rfl
    . left
      by_contra hne
      exact hrelease ⟨hold, _, new, _, hne, hop, hanswer⟩
    . exact .inr (hend rfl).symm
  | claimed hrunning hend => exact .inl rfl
  | cancelled hend hrunning =>
    rcases hcases with rfl | rfl
    . exact absurd rfl hrunning
    . exact .inr (hend rfl).symm
  | requested hend htask => exact absurd ⟨_, _, ⟨hop, hanswer⟩, htask⟩ hrequest
  | denied htask => exact .inr rfl

theorem held_of_claim (hfresh : FreshIds registry ops)
    (hclaim : At step registry ops i (.claimTaskForExecution now taskId) (.task (some task)))
    (hij : i < j) (hrelease : ∀ k, i < k → k < j → ¬ Releases registry ops taskId k)
    (hrequest : ∀ k, i < k → k < j → ¬ Happens step registry ops (Requests taskId) k) :
    Held (before step registry ops j) taskId := by
  apply before_of_le hij (P := (Held · taskId))
  . obtain ⟨next, hnext⟩ := exists_of_settle (fun _ _ => Answer.task.inj) hclaim.2
    rw [before_succ hclaim.1]
    left
    simp [step, Registry.settle, hnext, (claimTaskForExecution_spec hnext).1 taskId]
  . intro k op hik hkj hop hheld
    exact held_step hfresh hheld (hrelease k hik hkj) (hrequest k hik hkj) hop

theorem execution_lease_exclusive (hfresh : FreshIds registry ops)
    (hclaim : At step registry ops i (.claimTaskForExecution now taskId) (.task (some task)))
    (hij : i < j) (hrelease : ∀ k, i < k → k < j → ¬ Releases registry ops taskId k)
    (hrequest : ∀ k, i < k → k < j → ¬ Happens step registry ops (Requests taskId) k) :
    (∀ now' task', ¬ At step registry ops j (.claimTaskForExecution now' taskId)
        (.task (some task')))
      ∧ ∀ now' terminatedAt task', ¬ At step registry ops j (.cancelTask now' terminatedAt taskId)
        (.task (some task')) := by
  have hheld := held_of_claim hfresh hclaim hij hrelease hrequest
  constructor
  . intro now' task' h
    obtain ⟨next, hnext⟩ := exists_of_settle (fun _ _ => Answer.task.inj) h.2
    rcases hheld with hold | hold
    . exact ((claimTaskForExecution_spec hnext).2 _ hold).1 rfl
    . exact ((claimTaskForExecution_spec hnext).2 _ hold).2 rfl
  . intro now' terminatedAt task' h
    obtain ⟨next, hnext⟩ := exists_of_settle (fun _ _ => Answer.task.inj) h.2
    rcases hheld with hold | hold
    . exact ((cancelTask_spec hnext).2 _ hold).2 rfl
    . exact absurd (((cancelTask_spec hnext).2 _ hold).1 rfl) (by decide)

def sample : Registry := {
  tasks := (∅ : BTreeMap String TaskView).insert "task-1"
    ⟨"task-1", "Check daemon", none, .created, 0, 0, .object []⟩
  approvals := ∅ }

def sampleRequest : Op :=
  .requestApproval "approval-1" "toolcall-1" 2 ⟨"task-1", none, "files.read", "medium risk"⟩

theorem fresh_of_none_created (h : ∀ id now input, .createTask id now input ∉ ops) :
    FreshIds registry ops := by
  intro k id now input hop
  exact absurd (List.mem_of_getElem? hop) (h id now input)

def heldOps : List Op :=
  [.claimTaskForExecution 1 "task-1", .bindApprovalManifest "approval-1" "manifest",
    .claimTaskForExecution 3 "task-1"]

theorem execution_lease_exclusive_held :
    FreshIds sample heldOps ∧ ∀ now task,
      ¬ At step sample heldOps 2 (.claimTaskForExecution now "task-1") (.task (some task)) := by
  have hfresh : FreshIds sample heldOps := fresh_of_none_created (by simp [heldOps])
  refine ⟨hfresh, (execution_lease_exclusive hfresh (i := 0) ⟨rfl, rfl⟩ (by decide) ?_ ?_).1⟩
  . rintro k hk hk' ⟨_, _, _, _, _, hop, _⟩
    obtain rfl : k = 1 := by omega
    simp [heldOps] at hop
  . rintro k hk hk' ⟨_, _, ⟨hop, _⟩, hrequests⟩
    obtain rfl : k = 1 := by omega
    obtain rfl := Option.some.inj hop
    exact hrequests

def lostOps : List Op :=
  [.claimTaskForExecution 1 "task-1", sampleRequest, .claimTaskForExecution 3 "task-1"]

theorem execution_lease_lost :
    FreshIds sample lostOps
      ∧ (∃ task, At step sample lostOps 0 (.claimTaskForExecution 1 "task-1") (.task (some task)))
      ∧ (∀ k, 0 < k → k < 2 → ¬ Releases sample lostOps "task-1" k)
      ∧ ∃ task, At step sample lostOps 2 (.claimTaskForExecution 3 "task-1")
        (.task (some task)) := by
  refine ⟨?_, ⟨_, rfl, rfl⟩, ?_, ⟨_, rfl, rfl⟩⟩
  . apply fresh_of_none_created
    simp [lostOps, sampleRequest]
  . rintro k hk hk' ⟨_, _, _, _, _, hop, _⟩
    obtain rfl : k = 1 := by omega
    simp [lostOps, sampleRequest] at hop

theorem terminal_step (hfresh : FreshIds registry ops) (hend : status.isTerminal)
    (hdeny : status = .failed ∨ ¬ Happens step registry ops (Denies taskId) k)
    (hop : ops[k]? = some op)
    (hstatus : (before step registry ops k).statusOf taskId = some status) :
    (step (before step registry ops k) op).1.statusOf taskId = some status := by
  obtain ⟨new, hnew, hwrites⟩ := writes_step hstatus
  rw [hnew, Option.some.injEq]
  generalize hanswer : (step (before step registry ops k) op).2 = answer at hwrites
  cases hwrites with
  | kept => rfl
  | created => exact absurd hop (hfresh.not_created hstatus)
  | updated hkeep _ | cancelled hkeep _ => exact (hkeep hend).symm
  | claimed _ hopen | requested hopen _ => exact absurd hend hopen
  | denied htask =>
    rcases hdeny with rfl | hdeny
    . rfl
    . exact absurd ⟨_, _, ⟨hop, hanswer⟩, htask⟩ hdeny

theorem Denies.failed (h : Denies taskId op (registry.step op).2)
    (hstatus : registry.statusOf taskId = some old) :
    (registry.step op).1.statusOf taskId = some .failed := by
  cases op with
  | deny decidedAt now approvalId reason =>
    cases hresult : registry.deny decidedAt now approvalId reason with
    | none => simp [step, Registry.settle, hresult, Denies] at h
    | some result =>
      have htask : result.1.taskId = taskId := by
        simpa [step, Registry.settle, hresult, Denies] using h
      simp [step, Registry.settle, hresult, deny_spec hresult taskId, htask, hstatus]
  | _ => exact h.elim

theorem Grants.not_terminal (h : Grants taskId op (registry.step op).2)
    (hstatus : registry.statusOf taskId = some old) : ¬ old.isTerminal := by
  cases op with
  | approveWithLifetime decidedAt now approvalId lifetime =>
    cases hresult : registry.approveWithLifetime decidedAt now approvalId lifetime with
    | none => simp [step, Registry.settle, hresult, Grants] at h
    | some result =>
      have htask : result.1.1.taskId = taskId := by
        simpa [step, Registry.settle, hresult, Grants] using h
      subst htask
      exact (approveWithLifetime_spec hresult).1 old hstatus
  | _ => exact h.elim

theorem terminal_status_final_iff (hfresh : FreshIds registry ops)
    (hstatus : (before step registry ops i).statusOf taskId = some status)
    (hend : status.isTerminal) :
    ((∀ j, i ≤ j → (before step registry ops j).statusOf taskId = some status)
        ∧ ∀ j, i ≤ j → ¬ Happens step registry ops (Grants taskId) j)
      ↔ status = .failed ∨ ∀ j, i ≤ j → ¬ Happens step registry ops (Denies taskId) j := by
  constructor
  . rintro ⟨hkept, _⟩
    by_cases hfailed : status = .failed
    . exact .inl hfailed
    . right
      rintro j hij hdeny
      obtain ⟨op, hdenies, hnext⟩ := hdeny.exists_step
      have hlater := hkept (j + 1) (Nat.le_succ_of_le hij)
      rw [hnext, hdenies.failed (hkept j hij)] at hlater
      exact hfailed (Option.some.inj hlater).symm
  . intro hdeny
    have hkept : ∀ j, i ≤ j → (before step registry ops j).statusOf taskId = some status := by
      intro j hij
      apply before_of_le hij (P := (statusOf · taskId = some status)) hstatus
      intro k op hik _ hop
      exact terminal_step hfresh hend (hdeny.imp_right fun h => h k hik) hop
    refine ⟨hkept, ?_⟩
    intro j hij hgrant
    obtain ⟨op, hgrants, _⟩ := hgrant.exists_step
    exact hgrants.not_terminal (hkept j hij) hend

def completedOps : List Op :=
  [.updateTaskStatus 1 "task-1" .completed, .claimTaskForExecution 2 "task-1"]

theorem terminal_status_final_completed :
    FreshIds sample completedOps ∧ ∀ j, 1 ≤ j
      → (before step sample completedOps j).statusOf "task-1" = some .completed := by
  have hfresh : FreshIds sample completedOps := fresh_of_none_created (by simp [completedOps])
  refine ⟨hfresh, ((terminal_status_final_iff hfresh (by decide) rfl).mpr (.inr ?_)).1⟩
  . rintro j _ ⟨op, out, ⟨hop, _⟩, hdenies⟩
    have hmem := List.mem_of_getElem? hop
    simp only [completedOps, List.mem_cons, List.not_mem_nil, or_false] at hmem
    rcases hmem with rfl | rfl
    . exact hdenies
    . exact hdenies

def deniedOps : List Op :=
  [sampleRequest, .updateTaskStatus 3 "task-1" .completed, .deny 4 4 "approval-1" "too late"]

theorem terminal_status_not_final :
    FreshIds sample deniedOps
      ∧ (before step sample deniedOps 2).statusOf "task-1" = some .completed
      ∧ (before step sample deniedOps 3).statusOf "task-1" = some .failed := by
  refine ⟨?_, by decide, by decide⟩
  apply fresh_of_none_created
  simp [deniedOps, sampleRequest]

end Runs

end Registry

end TaskRegistry
