import Trillionnium.Data.List
import Trillionnium.ProcessRuntime.Impl.Process
import Trillionnium.Stream.Budget

/-!
What a trace of an execution says: the events that the sink has seen, the chunks that the main loop
has received, and whether the limit on the output is the reason for the end.
-/

namespace ProcessRuntime

open Concurrent
open Json (Bytes)

abbrev Trace := Prog.Trace Act Act.Res

def emittedBy : Sigma Act.Res → Option ExecutionEvent
  | ⟨.emit event, _⟩ => some event
  | _ => none

def receivedBy : Sigma Act.Res → Option (StreamKind × Bytes)
  | ⟨.receive, .chunk stream bytes⟩ => some (stream, bytes)
  | _ => none

def emitted (trace : Trace) : List ExecutionEvent := trace.filterMap emittedBy

def received (trace : Trace) : List (StreamKind × Bytes) := trace.filterMap receivedBy

def ExecutionEventKind.output? : ExecutionEventKind → Option (StreamKind × Bytes)
  | .output stream bytes => some (stream, bytes)
  | _ => none

def delivered (trace : Trace) : List (StreamKind × Bytes) :=
  (emitted trace).filterMap fun event => event.kind.output?

@[simp]
theorem emitted_nil : emitted [] = [] := rfl

@[simp]
theorem received_nil : received [] = [] := rfl

theorem emitted_concat {trace : Trace} :
    emitted (trace ++ [event]) = emitted trace ++ (emittedBy event).toList := by
  unfold emitted
  rw [List.filterMap_append]
  cases h : emittedBy event
  . simp [h]
  . simp [h]

theorem received_concat {trace : Trace} :
    received (trace ++ [event]) = received trace ++ (receivedBy event).toList := by
  unfold received
  rw [List.filterMap_append]
  cases h : receivedBy event
  . simp [h]
  . simp [h]

section Course

variable (limits : MechanicalLimits)

def Excess (before : Trace) (event : Sigma Act.Res) : Prop :=
  ∃ stream bytes, event = ⟨.receive, .chunk stream bytes⟩
    ∧ (limits.maxOutputBytes < Stream.total (received before) + bytes.length
      ∨ limits.maxOutputBytes ≤ Stream.total (received before))

def fails : Sigma Act.Res → Bool
  | ⟨.terminate, .error _⟩ => true
  | ⟨.postExitExpired, expired⟩ => expired
  | ⟨.retireReader _, none⟩ => true
  | ⟨.retireStdinWriter, none⟩ => true
  | ⟨.groupExists .cleanup, .ok alive⟩ => alive
  | ⟨.groupExists .cleanup, .error _⟩ => true
  | _ => false

def stops : Sigma Act.Res → Bool
  | ⟨.cancelled, cancelled⟩ => cancelled
  | ⟨.expired, expired⟩ => expired
  | ⟨.tryWait, .error _⟩ => true
  | ⟨.groupExists .leaderExit, .ok alive⟩ => alive
  | ⟨.groupExists .leaderExit, .error _⟩ => true
  | ⟨.receive, .error _ _⟩ => true
  | _ => false

def Undisturbed (trace : Trace) : Prop :=
  ∀ before event after, trace = before ++ event :: after
    → ¬Excess limits before event ∧ stops event = false ∧ fails event = false

def Exceeded (trace : Trace) : Prop :=
  ∃ before event after, trace = before ++ event :: after
    ∧ Undisturbed limits before ∧ Excess limits before event ∧ ∀ event' ∈ after, fails event' = false

variable {limits} {trace : Trace} {event : Sigma Act.Res}

theorem fails_of_excess (h : Excess limits trace event) : fails event = false := by
  obtain ⟨stream, bytes, rfl, _⟩ := h
  rfl

theorem undisturbed_nil : Undisturbed limits [] := by
  intro before event after h
  simp at h

theorem concat_eq_append_cons {before after : Trace} {event' : Sigma Act.Res}
    (h : trace ++ [event] = before ++ event' :: after) :
    (before = trace ∧ event' = event ∧ after = [])
      ∨ ∃ after', after = after' ++ [event] ∧ trace = before ++ event' :: after' := by
  cases List.eq_nil_or_concat' after with
  | inl hnil =>
    rw [hnil] at h
    obtain ⟨htrace, hevent⟩ := List.append_inj' h rfl
    exact .inl ⟨htrace.symm, (List.cons.inj hevent).1.symm, hnil⟩
  | inr hconcat =>
    obtain ⟨after', last, rfl⟩ := hconcat
    rw [← List.cons_append, ← List.append_assoc] at h
    obtain ⟨htrace, hevent⟩ := List.append_inj' h rfl
    exact .inr ⟨after', by rw [hevent], htrace⟩

theorem undisturbed_concat :
    Undisturbed limits (trace ++ [event])
      ↔ Undisturbed limits trace ∧ ¬Excess limits trace event ∧ stops event = false ∧ fails event = false := by
  constructor
  . intro h
    refine ⟨?_, h trace event [] rfl⟩
    intro before event' after heq
    apply h before event' (after ++ [event])
    rw [heq, List.append_assoc]
    rfl
  . rintro ⟨h, hevent⟩ before event' after heq
    cases concat_eq_append_cons heq with
    | inl hlast =>
      obtain ⟨rfl, rfl, _⟩ := hlast
      exact hevent
    | inr hinside =>
      obtain ⟨after', _, htrace⟩ := hinside
      exact h before event' after' htrace

theorem exceeded_concat :
    Exceeded limits (trace ++ [event])
      ↔ Exceeded limits trace ∧ fails event = false
        ∨ Undisturbed limits trace ∧ Excess limits trace event := by
  constructor
  . rintro ⟨before, event', after, heq, hbefore, hexcess, hafter⟩
    cases concat_eq_append_cons heq with
    | inl hlast =>
      obtain ⟨rfl, rfl, _⟩ := hlast
      exact .inr ⟨hbefore, hexcess⟩
    | inr hinside =>
      obtain ⟨after', rfl, htrace⟩ := hinside
      refine .inl ⟨⟨before, event', after', htrace, hbefore, hexcess, ?_⟩, ?_⟩
      . intro event'' hmem
        exact hafter event'' (List.mem_append_left _ hmem)
      . exact hafter event (List.mem_append_right _ (List.mem_singleton_self _))
  . rintro (⟨⟨before, event', after, heq, hbefore, hexcess, hafter⟩, hfails⟩ | ⟨htrace, hexcess⟩)
    . refine ⟨before, event', after ++ [event], ?_, hbefore, hexcess,
        List.forall_mem_concat hafter hfails⟩
      rw [heq, List.append_assoc]
      rfl
    . exact ⟨trace, event, [], rfl, htrace, hexcess, fun _ hmem => absurd hmem List.not_mem_nil⟩

end Course

end ProcessRuntime
