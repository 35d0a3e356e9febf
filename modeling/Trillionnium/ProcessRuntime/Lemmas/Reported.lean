import Trillionnium.ProcessRuntime.Impl.Execute

namespace ProcessRuntime

open Concurrent Monitor

def Reported (terminal : ExecutionTerminal) : Prop :=
  ∃ status : Option ExitStatus,
    terminal.exitCode = status.bind ExitStatus.code ∧ terminal.signal = status.bind ExitStatus.signal

abbrev Reports (run : Run ExecutionTerminal) : Prop :=
  free.Keeps () run (fun terminal _ => Reported terminal)

section Reports

variable {spec : ProcessSpec} {limits : MechanicalLimits} {rounds : Nat}

theorem reports_stop (sequence : Nat) (kind : TerminalKind) (error : String) :
    Reports (stop spec sequence kind error) := by
  apply keeps_free_bind
  intro elapsedMs
  apply keeps_free_bind
  intro _
  exact ⟨none, rfl, rfl⟩

theorem reports_finish : Reports (finish spec progress) := by
  apply keeps_free_bind
  intro progress
  apply keeps_free_bind
  intro progress
  apply keeps_free_bind
  intro progress
  apply keeps_free_bind
  intro progress
  apply keeps_free_bind
  intro elapsedMs
  apply keeps_free_bind
  intro _
  exact ⟨progress.childStatus, rfl, rfl⟩

theorem reports_superviseChild (sequence pid : Nat) :
    Reports (superviseChild spec limits rounds sequence pid) := by
  apply keeps_free_bind
  intro r
  match r with
  | .error error => exact reports_stop _ _ _
  | .ok () =>
    apply keeps_free_bind
    intro sequence
    apply keeps_free_bind
    intro r
    match r with
    | .error error =>
      apply keeps_free_bind
      intro cleanup
      cases cleanup with
      | ok _ | error _ => exact reports_stop _ _ _
    | .ok () =>
      apply keeps_free_bind
      intro progress
      exact reports_finish

theorem reports_launch (sequence : Nat) : Reports (launch spec limits rounds sequence) := by
  apply keeps_free_bind
  intro cancelled
  cases cancelled with
  | true => exact reports_stop _ _ _
  | false =>
    apply keeps_free_bind
    intro expired
    cases expired with
    | true => exact reports_stop _ _ _
    | false =>
      apply keeps_free_bind
      intro r
      match r with
      | .error error => exact reports_stop _ _ _
      | .ok pid => exact reports_superviseChild _ _

theorem reports_cloneSlave {sequence : Nat} {stdio : Stdio} {next : Run ExecutionTerminal}
    (hnext : Reports next) : Reports (cloneSlave spec sequence stdio next) := by
  apply keeps_free_bind
  intro r
  match r with
  | .error error => exact reports_stop _ _ _
  | .ok () => exact hnext

theorem reports_executeProcess : Reports (executeProcess spec limits rounds) := by
  apply keeps_free_bind
  intro sequence
  split
  . exact reports_stop _ _ _
  . split
    . exact reports_launch _
    . apply keeps_free_bind
      intro r
      match r with
      | .error error => exact reports_stop _ _ _
      | .ok () =>
        apply reports_cloneSlave
        apply reports_cloneSlave
        apply reports_cloneSlave
        exact reports_launch _

end Reports

abbrev ReportsResult (run : Run (Result ExecutionTerminal)) : Prop :=
  free.Keeps () run (fun result _ => ∀ terminal, result = .ok terminal → Reported terminal)

section ReportsResult

variable {limits : MechanicalLimits} {rounds : Nat}

theorem reports_error {error : RuntimeError} : ReportsResult (pure (.error error)) := by
  intro terminal heq
  cases heq

theorem reports_executeSpec : ReportsResult (executeSpec spec limits rounds) := by
  cases spec with
  | error error => exact reports_error
  | ok spec =>
    unfold executeSpec
    rw [ReportsResult, keeps_bind]
    apply reports_executeProcess.mono
    intro terminal _ h terminal' heq
    cases heq
    exact h

theorem keeps_executeAfterAcceptance {P : Result ExecutionTerminal → Prop}
    {run : Run (Result ExecutionTerminal)} (hok : ∀ terminal, Reported terminal → P (.ok terminal))
    (h : free.Keeps () run (fun result _ => P result)) :
    free.Keeps () (executeAfterAcceptance callId targetId tool run)
      (fun result _ => P result) := by
  apply keeps_free_bind
  intro _
  apply keeps_free_bind
  intro cancelled
  cases cancelled with
  | true =>
    apply keeps_free_bind
    intro elapsedMs
    apply keeps_free_bind
    intro _
    exact hok _ ⟨none, rfl, rfl⟩
  | false =>
    -- What the sink does not see makes no difference.
    change free.Keeps () (run.handle forward () >>= fun result => pure result.1) _
    rw [keeps_bind]
    refine Monitor.Keeps.mono (keeps_handle (R := fun _ _ _ => True) ?_ h trivial) ?_
    . intro a _ _ _ _ _
      exact keeps_free fun _ => trivial
    . intro x _ hx
      obtain ⟨_, hx, _⟩ := hx
      exact hx

theorem reports_executeValidated {run : Run (Result ExecutionTerminal)} (h : ReportsResult run) :
    ReportsResult (executeValidated valid callId targetId tool run) := by
  match valid with
  | .error error => exact reports_error
  | .ok () =>
    refine keeps_executeAfterAcceptance ?_ h
    intro terminal hreported terminal' heq
    cases heq
    exact hreported

end ReportsResult

end ProcessRuntime
