import Trillionnium.Concurrent.Environment
import Trillionnium.ProcessRuntime.Lemmas.Process

/-!
An execution returns if the exit of the leader is observed in the end and the grace for its output
runs out, and then it is complete.
-/

namespace ProcessRuntime

open Concurrent Stream
open Json (Bytes)

def delays : Sigma Act.Res → Bool
  | ⟨.tryWait, .ok (some _)⟩ => false
  | ⟨.tryWait, _⟩ => true
  | ⟨.postExitExpired, expired⟩ => !expired
  | _ => false

def delayed : Monitor Act Act.Res Bool where
  allows _ _ := True
  next g a r := g || delays ⟨a, r⟩

theorem after_delayed {g : Bool} {trace : Trace} :
    delayed.after g trace = (g || trace.any delays) := by
  induction trace generalizing g with
  | nil => exact (Bool.or_false g).symm
  | cons event trace ih =>
    rw [List.any_cons, ← Bool.or_assoc]
    exact ih

section Delayed

variable {g : Bool} {progress : Progress} {spec : ProcessSpec} {limits : MechanicalLimits}

theorem keeps_delayed {α : Type} (p : Run α) : delayed.Keeps true p (fun _ g => g = true) := by
  induction p with
  | pure x => rfl
  | act a next ih => exact ⟨trivial, fun r => ih r⟩
  | halt => trivial

theorem delayed_observeExit :
    delayed.Keeps g (observeExit progress) (fun progress g => progress.childStatus.isSome ∨ g = true) := by
  unfold observeExit
  split
  next h => exact .inl h
  . refine ⟨trivial, ?_⟩
    rintro (error | _ | status)
    . exact .inr (Bool.or_true _)
    . exact .inr (Bool.or_true _)
    . refine ⟨trivial, ?_⟩
      rintro (error | _ | _) <;> exact .inl rfl

section

variable (h : progress.childStatus.isSome ∨ g = true)
include h

theorem delayed_observeStop :
    delayed.Keeps g (observeStop progress) (fun progress g => progress.childStatus.isSome ∨ g = true) := by
  cases h with
  | inl h =>
    unfold observeStop
    rw [h]
    exact .inl h
  | inr h =>
    rw [h]
    apply (keeps_delayed _).mono
    intro progress g h
    exact .inr h

theorem delayed_terminateForced :
    delayed.Keeps g (terminateForced progress)
      (fun progress g => progress.childStatus.isSome ∨ g = true) := by
  unfold terminateForced
  split
  . refine ⟨trivial, ?_⟩
    intro r
    cases r with
    | ok status => exact .inl rfl
    | error error =>
      refine ⟨trivial, ?_⟩
      rintro (error | _ | status)
      . exact .inr (Bool.or_true _)
      . exact .inr (Bool.or_true _)
      . exact .inl rfl
  . exact h

theorem delayed_graceExpired :
    delayed.Keeps g (graceExpired progress) (fun expired g => expired = false → g = true) := by
  unfold graceExpired
  split
  . refine ⟨trivial, ?_⟩
    intro expired hexpired
    cases hexpired
    exact Bool.or_true _
  next hnone =>
    intro _
    exact h.resolve_left hnone

end

theorem delayed_round :
    delayed.Keeps false (round spec limits progress) (fun result g =>
      ∀ progress, result = .inl progress → g = true) := by
  unfold round
  rw [Monitor.keeps_bind]
  apply delayed_observeExit.mono
  intro progress g h
  apply (delayed_observeStop h).bind
  intro progress g h
  apply (delayed_terminateForced h).bind
  intro progress g h
  split
  . intro progress' heq
    cases heq
  . apply (delayed_graceExpired h).bind
    intro expired g h
    cases expired with
    | true =>
      intro progress' heq
      cases heq
    | false =>
      rw [h rfl]
      apply (keeps_delayed _).mono
      intro result g h progress' _
      exact h

theorem exists_delays_of_round {trace : Trace}
    (h : (round spec limits progress).Runs trace (.inl progress')) :
    ∃ event ∈ trace, delays event = true := by
  have hafter := delayed_round.runs h progress' rfl
  rw [after_delayed, Bool.false_or, List.any_eq_true] at hafter
  exact hafter

end Delayed

section Unbroken

variable (spec : ProcessSpec) (limits : MechanicalLimits) (progress : Progress)

theorem unbroken_act (a : Act) : (perform a).Unbroken := Prog.unbroken_perform

theorem unbroken_emit (sequence : Nat) (kind : ExecutionEventKind) :
    (emit spec sequence kind).Unbroken :=
  fun _ _ => trivial

theorem unbroken_stop (sequence : Nat) (kind : TerminalKind) (error : String) :
    (stop spec sequence kind error).Unbroken :=
  fun _ _ _ => trivial

theorem unbroken_observeExit : (observeExit progress).Unbroken := by
  unfold observeExit
  split
  . trivial
  . rintro (error | _ | status)
    . trivial
    . trivial
    . rintro (error | _ | _) <;> trivial

theorem unbroken_observeStop : (observeStop progress).Unbroken := by
  unfold observeStop
  split
  . trivial
  . rintro (_ | _)
    . rintro (_ | _) <;> trivial
    . trivial

theorem unbroken_terminateProcessGroup : (terminateProcessGroup progress).Unbroken := by
  rintro (error | status)
  . exact fun _ => trivial
  . trivial

theorem unbroken_terminateForced : (terminateForced progress).Unbroken := by
  unfold terminateForced
  split
  . exact unbroken_terminateProcessGroup _
  . trivial

theorem unbroken_graceExpired : (graceExpired progress).Unbroken := by
  unfold graceExpired
  split
  . exact Prog.unbroken_perform
  . trivial

theorem unbroken_deliverChunk {delivered : Nat} :
    (deliverChunk spec progress stream bytes delivered).Unbroken := by
  unfold deliverChunk
  split
  . exact (unbroken_emit _ _ _).bind fun _ => trivial
  . trivial

theorem unbroken_receive : (receive spec limits progress).Unbroken := by
  intro r
  match r with
  | .chunk stream bytes =>
    apply (unbroken_deliverChunk spec progress).bind
    intro progress
    split <;> trivial
  | .eof _ | .error _ _ | .timeout | .disconnected => trivial

theorem unbroken_round : (round spec limits progress).Unbroken := by
  apply (unbroken_observeExit _).bind
  intro progress
  apply (unbroken_observeStop _).bind
  intro progress
  apply (unbroken_terminateForced _).bind
  intro progress
  split
  . trivial
  . apply (unbroken_graceExpired _).bind
    intro expired
    split
    . trivial
    . exact (unbroken_receive _ _ _).bind fun _ => trivial

theorem unbroken_retireReader : (retireReader progress stdio).Unbroken := by
  rintro (_ | _) <;> trivial

theorem unbroken_retireWorkers : (retireWorkers spec progress).Unbroken := by
  have hstdin : ∀ progress, (retireStdinWriter progress).Unbroken := by
    rintro progress (_ | _ | error) <;> trivial
  unfold retireWorkers
  apply (unbroken_retireReader _).bind
  intro progress
  cases spec.ioMode with
  | pipe => exact (unbroken_retireReader _).bind hstdin
  | pty size => exact hstdin progress

theorem unbroken_finish : (finish spec progress).Unbroken := by
  have hcleanup : ∀ progress, (observeCleanup progress).Unbroken := by
    intro progress
    unfold observeCleanup
    split
    . rintro (error | _ | _) <;> trivial
    . trivial
  have hstatus : ∀ progress, (finalStatus progress).Unbroken := by
    intro progress
    unfold finalStatus
    split
    . exact fun _ => trivial
    . trivial
  have hterminated : ∀ progress, (ensureTerminated progress).Unbroken := by
    intro progress
    unfold ensureTerminated
    split
    . exact unbroken_terminateProcessGroup _
    . trivial
  apply (hterminated _).bind
  intro progress
  apply (unbroken_retireWorkers _ _).bind
  intro progress
  apply (hstatus _).bind
  intro progress
  apply (hcleanup _).bind
  intro progress elapsedMs
  exact (unbroken_emit _ _ _).bind fun _ => trivial

end Unbroken

section Returns

variable {spec : ProcessSpec} {limits : MechanicalLimits} {env : Environment Act Act.Res}

def Settles (env : Environment Act Act.Res) : Prop :=
  ∃ bound, ∀ trace a, bound ≤ trace.length → delays ⟨a, env trace a⟩ = false

theorem returns_superviseChild (henv : Settles env) (sequence pid : Nat) :
    Prog.Returns env (fun rounds => superviseChild spec limits rounds sequence pid) := by
  obtain ⟨bound, henv⟩ := henv
  unfold superviseChild
  apply Prog.Unbroken.bind_returns (unbroken_act (.captureIdentity pid))
  intro r
  match r with
  | .error error => exact (unbroken_stop _ _ _ _).returns
  | .ok () =>
    apply (unbroken_emit _ _ _).bind_returns
    intro sequence
    apply Prog.Unbroken.bind_returns (unbroken_act (.setupWorkers spec.stdin))
    intro r
    match r with
    | .error error =>
      apply Prog.Unbroken.returns
      rintro (_ | _) <;> exact unbroken_stop _ _ _ _
    | .ok () =>
      apply Prog.Returns.bind
      . exact Prog.returns_iterate bound henv (unbroken_round spec limits)
          (fun _ _ _ => exists_delays_of_round) _
      . exact unbroken_finish spec

theorem returns_launch (henv : Settles env) (sequence : Nat) :
    Prog.Returns env (fun rounds => launch spec limits rounds sequence) := by
  unfold launch
  apply Prog.Unbroken.bind_returns (unbroken_act .cancelled)
  intro cancelled
  cases cancelled with
  | true => exact (unbroken_stop _ _ _ _).returns
  | false =>
    apply Prog.Unbroken.bind_returns (unbroken_act .expired)
    intro expired
    cases expired with
    | true => exact (unbroken_stop _ _ _ _).returns
    | false =>
      apply Prog.Unbroken.bind_returns (unbroken_act (.spawn spec.command))
      intro r
      match r with
      | .error error => exact (unbroken_stop _ _ _ _).returns
      | .ok pid => exact returns_superviseChild henv sequence pid

theorem returns_cloneSlave {sequence : Nat} {stdio : Stdio} {next : Nat → Run ExecutionTerminal}
    (hnext : Prog.Returns env next) :
    Prog.Returns env (fun rounds => cloneSlave spec sequence stdio (next rounds)) := by
  unfold cloneSlave
  apply Prog.Unbroken.bind_returns (unbroken_act (.cloneSlave stdio))
  intro r
  match r with
  | .error error => exact (unbroken_stop _ _ _ _).returns
  | .ok () => exact hnext

theorem returns_executeProcess (henv : Settles env) :
    Prog.Returns env (executeProcess spec limits) := by
  unfold executeProcess
  apply (unbroken_emit _ _ _).bind_returns
  intro sequence
  split
  . exact (unbroken_stop _ _ _ _).returns
  . cases spec.ioMode with
    | pipe => exact returns_launch henv sequence
    | pty size =>
      dsimp only
      apply Prog.Unbroken.bind_returns (unbroken_act (.openPty size))
      intro r
      match r with
      | .error error => exact (unbroken_stop _ _ _ _).returns
      | .ok () =>
        apply returns_cloneSlave
        apply returns_cloneSlave
        apply returns_cloneSlave
        exact returns_launch henv sequence

end Returns

section Execution

variable {limits : MechanicalLimits}

theorem lawful_of_allowed (trace : Trace) (a : Act) (r : a.Res) (h : Lawful (emitted trace))
    (hallows : watch.allows trace a) : Lawful (emitted (watch.next trace a r)) := by
  change Lawful (emitted (trace ++ [⟨a, r⟩]))
  rw [emitted_concat]
  cases a with
  | emit event => exact hallows event rfl
  | _ =>
    rw [show emittedBy _ = none from rfl]
    simpa using h

theorem executeProcess_delivered (spec : ProcessSpec) (limits : MechanicalLimits)
    (hlimits : limits.validate = .ok ()) :
    (∀ rounds trace rest, (executeProcess spec limits rounds).Steps trace rest
        → Lawful (emitted trace))
      ∧ (∀ rounds trace terminal, (executeProcess spec limits rounds).Runs trace terminal
        → Delivered limits trace terminal)
      ∧ ∀ env, Settles env → ∃ rounds trace terminal,
        (executeProcess spec limits rounds).answer env [] = some (trace, terminal)
          ∧ (executeProcess spec limits rounds).Runs trace terminal := by
  have hmax := MechanicalLimits.maxOutputBytes_le_of_validate hlimits
  refine ⟨?_, ?_, ?_⟩
  . intro rounds trace rest hsteps
    have hnil : Lawful (emitted []) := by
      refine ⟨rfl, none, [], ⟨.exited, none, none, 0, 0, false, 0, none⟩, ?_, fun _ => rfl⟩
      exact List.nil_prefix
    have h := (keeps_executeProcess hmax).steps_invariant lawful_of_allowed hnil hsteps
    unfold watch at h
    rw [Monitor.after_history] at h
    exact h
  . intro rounds trace terminal hruns
    have h := ((keeps_executeProcess hmax).runs hruns).complete
    unfold watch at h
    rw [Monitor.after_history] at h
    exact h
  . intro env henv
    obtain ⟨rounds, trace, terminal, hanswer⟩ := @returns_executeProcess spec limits env henv []
    obtain ⟨suffix, heq, hruns, _⟩ := Prog.runs_of_answer hanswer
    rw [List.nil_append] at heq
    exact ⟨rounds, trace, terminal, hanswer, heq ▸ hruns⟩

def sampleSpec : ProcessSpec where
  callId := "call"
  targetId := none
  tool := .shellExec
  program := Json.utf8 "/bin/sh"
  args := []
  cwd := none
  env := ∅
  stdin := []
  timeout := fromSecs 90
  ioMode := .pipe

def sampleLimits : MechanicalLimits :=
  { MechanicalLimits.default with maxOutputBytes := 1, streamChunkBytes := 1 }

def receives (trace : Trace) : Nat := trace.countP fun
  | ⟨.receive, _⟩ => true
  | _ => false

def sampleEnv (trace : Trace) : (a : Act) → a.Res
  | .emit _ => ()
  | .cancelled => decide (10 ≤ trace.length)
  | .expired => false
  | .elapsed => 0
  | .openPty _ => .ok ()
  | .cloneSlave _ => .ok ()
  | .spawn _ => .ok 7
  | .captureIdentity _ => .ok ()
  | .setupWorkers _ => .ok ()
  | .tryWait => .ok none
  | .groupExists _ => .ok false
  | .terminate => .ok (.exited 0)
  | .postExitExpired => false
  | .receive =>
    match receives trace with
    | 0 => .chunk .stdout [65]
    | 1 => .chunk .stdout [66]
    | 2 => .eof .stdout
    | _ => .eof .stderr
  | .retireReader _ => some ()
  | .retireStdinWriter => some none

theorem sampleEnv_runs : ∃ trace terminal,
    (executeProcess sampleSpec sampleLimits 5).Runs trace terminal
      ∧ total (delivered trace) < total (received trace) ∧ terminal.outputTruncated = false := by
  have hanswer : ∃ trace terminal,
      (executeProcess sampleSpec sampleLimits 5).answer sampleEnv [] = some (trace, terminal)
        ∧ total (delivered trace) < total (received trace) ∧ terminal.outputTruncated = false :=
    ⟨_, _, rfl, by decide, rfl⟩
  obtain ⟨trace, terminal, hanswer, hrest⟩ := hanswer
  obtain ⟨suffix, heq, hruns, _⟩ := Prog.runs_of_answer hanswer
  rw [List.nil_append] at heq
  exact ⟨trace, terminal, heq ▸ hruns, hrest⟩

theorem sampleSpec_delivered : sampleLimits.validate = .ok () ∧ ∃ trace terminal,
    (executeProcess sampleSpec sampleLimits 5).Runs trace terminal
      ∧ Delivered sampleLimits trace terminal := by
  obtain ⟨trace, terminal, hruns, _⟩ := sampleEnv_runs
  exact ⟨rfl, trace, terminal, hruns,
    (executeProcess_delivered sampleSpec sampleLimits rfl).2.1 5 trace terminal hruns⟩

theorem outputTruncated_iff_exceeded {spec : ProcessSpec} {rounds : Nat} {trace : Trace}
    {terminal : ExecutionTerminal} (hlimits : limits.validate = .ok ())
    (hruns : (executeProcess spec limits rounds).Runs trace terminal)
    (hdropped : total (delivered trace) < total (received trace)) :
    terminal.outputTruncated = true ↔ Exceeded limits trace := by
  have hmax := MechanicalLimits.maxOutputBytes_le_of_validate hlimits
  have h := ((keeps_executeProcess hmax).runs hruns).truncated
  unfold watch at h
  rw [Monitor.after_history] at h
  exact h hdropped

theorem sampleSpec_outputTruncated : ∃ trace terminal,
    (executeProcess sampleSpec sampleLimits 5).Runs trace terminal
      ∧ total (delivered trace) < total (received trace)
      ∧ (terminal.outputTruncated = true ↔ Exceeded sampleLimits trace) := by
  obtain ⟨trace, terminal, hruns, hdropped, _⟩ := sampleEnv_runs
  exact ⟨trace, terminal, hruns, hdropped, outputTruncated_iff_exceeded rfl hruns hdropped⟩

theorem dropped_without_truncation : sampleLimits.validate = .ok () ∧ ∃ trace terminal,
    (executeProcess sampleSpec sampleLimits 5).Runs trace terminal
      ∧ total (delivered trace) < total (received trace) ∧ terminal.outputTruncated = false :=
  ⟨rfl, sampleEnv_runs⟩

end Execution

end ProcessRuntime
