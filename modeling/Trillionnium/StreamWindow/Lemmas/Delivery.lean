import Trillionnium.Data.List
import Trillionnium.StreamWindow.Lemmas.Credit

/-!
Controls that are delivered again, that reuse a sequence number or that arrive too early have no
effect: every such schedule ends in the state of the schedule without them.
-/

namespace StreamWindow

/--
The second schedule delivers the operations of the first one in their order, and in between controls
that repeat a control that was delivered before, reuse its sequence number with another command or
carry a number beyond the next expected one. The first argument are the controls that were delivered
before, in sequence order from `0` on.
-/
inductive Injects : List ControlRecord → List Op → List Op → Prop where
  | done (delivered : List ControlRecord) : Injects delivered [] []
  | deliver {delivered : List ControlRecord} {plain noisy : List Op} (record : ControlRecord)
      (h : Injects (delivered ++ [record]) plain noisy) :
    Injects delivered (.applyControl record.seq record.command :: plain)
      (.applyControl record.seq record.command :: noisy)
  | reserve {delivered : List ControlRecord} {plain noisy : List Op} (bytes : Nat)
      (h : Injects delivered plain noisy) :
    Injects delivered (.tryReserve bytes :: plain) (.tryReserve bytes :: noisy)
  | retransmit {delivered : List ControlRecord} {plain noisy : List Op} {record : ControlRecord}
      (hmem : record ∈ delivered) (h : Injects delivered plain noisy) :
    Injects delivered plain (.applyControl record.seq record.command :: noisy)
  | reuse {delivered : List ControlRecord} {plain noisy : List Op} {record : ControlRecord}
      {command : StreamControl} (hmem : record ∈ delivered) (hne : command ≠ record.command)
      (h : Injects delivered plain noisy) :
    Injects delivered plain (.applyControl record.seq command :: noisy)
  | future {delivered : List ControlRecord} {plain noisy : List Op} {seq : Nat}
      (command : StreamControl) (hseq : delivered.length < seq) (h : Injects delivered plain noisy) :
    Injects delivered plain (.applyControl seq command :: noisy)

def reservations (trace : List (Op × Answer)) : List (Nat × Answer) :=
  trace.filterMap fun
    | (.tryReserve bytes, out) => some (bytes, out)
    | _ => none

namespace Window

open Machine

variable {window : Window}

variable {seq : Nat} {command : StreamControl}

theorem step_of_seq_ne (h : seq ≠ window.state.nextControlSeq) :
    (window.step (.applyControl seq command)).1 = window := by
  have hstep := window.step_transition (.applyControl seq command)
  generalize (window.step (.applyControl seq command)).1 = window' at hstep
  cases hstep with
  | same _ _ => rfl
  | applied _ _ _ => exact absurd rfl h

theorem Transition.nextControlSeq_of_applies (h : window.Transition op out window')
    (hop : op = .applyControl seq command) (happlies : Applies command op out) :
    seq = window.state.nextControlSeq
      ∧ window'.state.nextControlSeq = window.state.nextControlSeq + 1 := by
  cases h with
  | same hcontrol _ => exact absurd happlies (hcontrol command)
  | applied _ _ hstate =>
    cases hop
    refine ⟨rfl, ?_⟩
    cases hstate with
    | windowUpdate _ | pause | resume | close => rfl
  | granted _ _ _ => cases hop

theorem Transition.nextControlSeq_of_tryReserve
    (h : window.Transition (.tryReserve bytes) out window') :
    window'.state.nextControlSeq = window.state.nextControlSeq := by
  cases h with
  | same _ _ | granted _ _ _ => rfl

structure HasTaken (window : Window) (delivered : List ControlRecord) : Prop where
  next : window.state.nextControlSeq = delivered.length
  seq_lt : ∀ record ∈ delivered, record.seq < delivered.length

theorem HasTaken.seq_ne {delivered : List ControlRecord} {record : ControlRecord}
    (h : window.HasTaken delivered) (hmem : record ∈ delivered) :
    record.seq ≠ window.state.nextControlSeq := by
  rw [h.next]
  exact Nat.ne_of_lt (h.seq_lt record hmem)

theorem run_injected (h : seq ≠ window.state.nextControlSeq) :
    run step window (.applyControl seq command :: ops) = run step window ops
      ∧ reservations (trace step window (.applyControl seq command :: ops))
        = reservations (trace step window ops) := by
  have hstep : (step window (.applyControl seq command)).1 = window := step_of_seq_ne h
  refine ⟨?_, ?_⟩
  . calc
      run step window (.applyControl seq command :: ops)
        = run step (step window (.applyControl seq command)).1 ops := rfl
      _ = run step window ops := by rw [hstep]
  . calc
      reservations (trace step window (.applyControl seq command :: ops))
        = reservations (trace step (step window (.applyControl seq command)).1 ops) := rfl
      _ = reservations (trace step window ops) := by rw [hstep]

theorem injects_run {delivered : List ControlRecord} (h : Injects delivered plain noisy)
    (htaken : window.HasTaken delivered)
    (hplain : ∀ i seq command, plain[i]? = some (.applyControl seq command)
      → Happens step window plain (Applies command) i) :
    run step window noisy = run step window plain
      ∧ reservations (trace step window noisy) = reservations (trace step window plain) := by
  induction h generalizing window with
  | done delivered => exact ⟨rfl, rfl⟩
  | @deliver delivered plain noisy record _ ih =>
    obtain ⟨op, out, ⟨hop, rfl⟩, happlies⟩ := hplain 0 record.seq record.command rfl
    cases hop
    obtain ⟨hseq, hnext⟩ :=
      (window.step_transition _).nextControlSeq_of_applies rfl happlies
    apply ih
    . refine ⟨?_, ?_⟩
      . rw [hnext, htaken.next, List.length_append]
        rfl
      . rw [List.length_append]
        apply List.forall_mem_concat
        . intro record' hmem
          exact Nat.lt_add_right _ (htaken.seq_lt record' hmem)
        . rw [hseq, htaken.next]
          simp
    . intro i seq command hi
      exact hplain (i + 1) seq command hi
  | @reserve delivered plain noisy bytes _ ih =>
    have hnext := (window.step_transition (.tryReserve bytes)).nextControlSeq_of_tryReserve
    obtain ⟨hrun, hreservations⟩ := ih ⟨hnext.trans htaken.next, htaken.seq_lt⟩
      (fun i seq command hi => hplain (i + 1) seq command hi)
    refine ⟨hrun, ?_⟩
    exact congrArg (List.cons (bytes, (step window (.tryReserve bytes)).2)) hreservations
  | @retransmit _ _ noisy _ hmem _ ih | @reuse _ _ noisy _ _ hmem _ _ ih =>
    obtain ⟨hrun, hreservations⟩ := run_injected (htaken.seq_ne hmem)
    rw [hrun, hreservations]
    exact ih htaken hplain
  | @future delivered plain noisy seq command hseq _ ih =>
    rw [← htaken.next] at hseq
    obtain ⟨hrun, hreservations⟩ := run_injected (Nat.ne_of_gt hseq)
    rw [hrun, hreservations]
    exact ih htaken hplain

theorem delivery_exactly_once {config : StreamWindowConfig} (hnew : Window.new config = .ok window)
    {plain noisy : List Op}
    (hplain : ∀ i seq command, plain[i]? = some (.applyControl seq command)
      → Happens step window plain (Applies command) i)
    (h : Injects [] plain noisy) :
    run step window noisy = run step window plain
      ∧ reservations (trace step window noisy) = reservations (trace step window plain) := by
  apply injects_run h _ hplain
  obtain ⟨_, hstate⟩ := new_eq_ok hnew
  refine ⟨?_, ?_⟩
  . rw [hstate]
    rfl
  . intro record hmem
    cases hmem

section Sample

def samplePlain : List Op :=
  [.applyControl 0 (.windowUpdate 1024), .tryReserve 4096, .applyControl 1 .pause, .tryReserve 1]

def sampleNoisy : List Op :=
  [.applyControl 0 (.windowUpdate 1024), .applyControl 0 (.windowUpdate 1024), .tryReserve 4096,
    .applyControl 7 .close, .applyControl 1 .pause, .applyControl 0 .close, .tryReserve 1]

theorem delivery_exactly_once_sample :
    run step sampleWindow sampleNoisy = run step sampleWindow samplePlain
      ∧ reservations (trace step sampleWindow sampleNoisy)
        = reservations (trace step sampleWindow samplePlain) := by
  have hnew : Window.new .default = .ok sampleWindow := rfl
  apply delivery_exactly_once hnew
  . intro i seq command hi
    match i with
    | 0 =>
      cases hi
      exact ⟨_, _, ⟨rfl, rfl⟩, ⟨0, rfl⟩, _, rfl⟩
    | 1 | 3 | i + 4 => cases hi
    | 2 =>
      cases hi
      exact ⟨_, _, ⟨rfl, rfl⟩, ⟨1, rfl⟩, _, rfl⟩
  . let first : ControlRecord := ⟨0, .windowUpdate 1024⟩
    have hfirst : first ∈ [first] := List.mem_singleton_self first
    have hfirst' : first ∈ [first, ⟨1, .pause⟩] := List.mem_cons_self
    apply Injects.deliver first
    apply Injects.retransmit hfirst
    apply Injects.reserve
    apply Injects.future .close (by decide)
    apply Injects.deliver ⟨1, .pause⟩
    apply Injects.reuse hfirst' (by simp [first])
    apply Injects.reserve
    apply Injects.done

end Sample

end Window

end StreamWindow
