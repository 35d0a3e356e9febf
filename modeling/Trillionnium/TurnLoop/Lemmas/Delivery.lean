import Trillionnium.Data.List
import Trillionnium.TurnLoop.Impl.Turn

/-!
What a turn delivers to its sink: the acceptance, the events of the provider and of its tools and one
terminal event.
-/

namespace TurnLoop

open Concurrent List Monitor
open ToolBridge (BoundToolCall BridgeLimits SinkFailure)

variable {trace : Trace}

abbrev Trace := Prog.Trace Act Act.Res

section Trace

def deliveredEvent : Sigma Act.Res → Option TurnEvent
  | ⟨.sink event, _⟩ => some event
  | _ => none

def delivered (trace : Trace) : List TurnEvent := trace.filterMap deliveredEvent

def outcome : Sigma Act.Res → Option ProviderTerminal
  | ⟨.resume _, .finish result⟩ => some (terminalOf result)
  | ⟨.resume _, .panicked⟩ => some panickedTerminal
  | _ => none

def ended (trace : Trace) : Option ProviderTerminal := trace.findSome? outcome

def ending (trace : Trace) : ProviderTerminal := (ended trace).getD cancelledTerminal

def Refused (trace : Trace) : Prop := ∃ event failure, ⟨.sink event, .error failure⟩ ∈ trace

theorem delivered_concat_sink {r : Except SinkFailure Unit} :
    delivered (trace ++ [⟨.sink event, r⟩]) = delivered trace ++ [event] := by
  unfold delivered
  rw [filterMap_append]
  rfl

theorem delivered_concat (h : deliveredEvent event = none) :
    delivered (trace ++ [event]) = delivered trace := by
  unfold delivered
  rw [filterMap_append]
  simp [h]

theorem ended_concat (trace : Trace) (event : Sigma Act.Res) (h : outcome event = none) :
    ended (trace ++ [event]) = ended trace := by
  unfold ended
  simp [findSome?_append, h]

end Trace

def TurnEventKind.isTerminal : TurnEventKind → Bool
  | .turnTerminal _ => true
  | _ => false

structure Closed (events : List TurnEvent) : Prop where
  first : events.head?.map TurnEvent.kind = some .turnAccepted
  numbered : events.map TurnEvent.seq = range events.length
  last : ∃ terminal, events.getLast?.map TurnEvent.kind = some (.turnTerminal terminal)
  once : events.countP (·.kind.isTerminal) = 1

structure Follows (events : List TurnEvent) (event : TurnEvent) : Prop where
  seq : event.seq = events.length
  first : events = [] → event.kind = .turnAccepted
  unfinished : ∀ earlier ∈ events, earlier.kind.isTerminal = false

def watch : Monitor Act Act.Res Trace :=
  history fun trace a =>
    match a with
    | .sink event => Follows (delivered trace) event
    | _ => True

structure Ordered (events : List TurnEvent) : Prop where
  first : ∀ event, events.head? = some event → event.kind = .turnAccepted
  numbered : events.map TurnEvent.seq = range events.length
  unfinished : ∀ event ∈ events.dropLast, event.kind.isTerminal = false

theorem Ordered.concat (h : Ordered events) (hfollows : Follows events event) :
    Ordered (events ++ [event]) where
  first := by
    intro first hfirst
    cases events with
    | nil =>
      cases hfirst
      exact hfollows.first rfl
    | cons head rest => exact h.first first hfirst
  numbered := by
    rw [map_append, h.numbered, length_append, length_singleton, range_succ,
      map_singleton, hfollows.seq]
  unfinished := by
    rw [dropLast_concat]
    exact hfollows.unfinished

theorem ordered_after {α : Type} {p q : Run α} {Q : α → Trace → Prop} (h : watch.Keeps [] p Q)
    (hsteps : p.Steps trace q) : Ordered (delivered trace) := by
  have hordered := Monitor.Keeps.steps_invariant (I := fun trace => Ordered (delivered trace))
    (by
      intro trace a r hordered hallows
      change Ordered (delivered (trace ++ [⟨a, r⟩]))
      cases a with
      | sink event =>
        rw [delivered_concat_sink]
        exact hordered.concat hallows
      | resume _ | cancelled =>
        rw [delivered_concat rfl]
        exact hordered
      | tool a =>
        rw [delivered_concat rfl]
        exact hordered)
    h ⟨by simp [delivered], rfl, by simp [delivered]⟩ hsteps
  unfold watch at hordered
  rw [after_history] at hordered
  exact hordered

theorem Ordered.closed_iff (h : Ordered events) :
    Closed events ↔ ∃ event ∈ events, event.kind.isTerminal = true := by
  constructor
  . intro hclosed
    have hpos : 0 < events.countP (·.kind.isTerminal) := by
      rw [hclosed.once]
      exact Nat.one_pos
    exact countP_pos_iff.mp hpos
  . rintro ⟨event, hmem, hterminal⟩
    obtain ⟨earlier, last, rfl⟩ := eq_nil_or_concat events |>.resolve_left
      (ne_nil_of_mem hmem)
    rw [concat_eq_append] at h hmem ⊢
    have hopen := h.unfinished
    rw [dropLast_concat] at hopen
    have hlast : last.kind.isTerminal = true := by
      cases mem_append.mp hmem with
      | inl hmem =>
        rw [hopen event hmem] at hterminal
        cases hterminal
      | inr hmem =>
        rw [← mem_singleton.mp hmem]
        exact hterminal
    constructor
    . cases hhead : (earlier ++ [last]).head? with
      | none => simp at hhead
      | some first =>
        rw [Option.map_some, h.first first hhead]
    . exact h.numbered
    . cases hkind : last.kind with
      | turnTerminal terminal =>
        refine ⟨terminal, ?_⟩
        rw [getLast?_concat, Option.map_some, hkind]
      | _ =>
        rw [hkind] at hlast
        cases hlast
    . have hnone : earlier.countP (·.kind.isTerminal) = 0 := by
        rw [countP_eq_zero]
        intro event hmem
        rw [hopen event hmem]
        exact Bool.false_ne_true
      rw [countP_append, hnone, countP_singleton, hlast]
      rfl

structure Running (trace : Trace) (state : TurnState) : Prop where
  seq : state.nextSeq = (delivered trace).length
  accepted : delivered trace ≠ []
  unfinished : ∀ event ∈ delivered trace, event.kind.isTerminal = false

theorem Running.follows {state : TurnState} (h : Running trace state) (kind : TurnEventKind) :
    Follows (delivered trace) ⟨state.nextSeq, kind⟩ :=
  ⟨h.seq, fun hnil => absurd hnil h.accepted, h.unfinished⟩

theorem Running.concat {state : TurnState} (h : Running trace state) (event : Sigma Act.Res)
    (hevent : deliveredEvent event = none) : Running (trace ++ [event]) state := by
  constructor
  . rw [delivered_concat hevent]
    exact h.seq
  . rw [delivered_concat hevent]
    exact h.accepted
  . rw [delivered_concat hevent]
    exact h.unfinished

section Keeps

variable {limits : BridgeLimits} {weights : Weights} {rounds : Nat} {request : TurnRequest}
  {trace : Trace} {state : TurnState}

theorem keeps_pushEvent {kind : TurnEventKind} (hkind : kind.isTerminal = false)
    (h : Running trace state) :
    watch.Keeps trace (pushEvent weights kind state)
      (fun pushed trace' => Running trace' pushed.2 ∧ ended trace' = ended trace) := by
  unfold pushEvent
  split
  . exact ⟨h, rfl⟩
  next nextSeq hnext =>
    rw [keeps_perform_bind]
    refine ⟨h.follows kind, ?_⟩
    intro r
    have hrunning : ∀ retained, Running (trace ++ [⟨.sink ⟨state.nextSeq, kind⟩, r⟩])
        ⟨retained, nextSeq⟩ := by
      intro retained
      constructor
      . rw [delivered_concat_sink, length_append, (Checked.add_eq_some.mp hnext).1, h.seq]
        rfl
      . rw [delivered_concat_sink]
        exact concat_ne_nil _ _
      . rw [delivered_concat_sink]
        exact forall_mem_concat h.unfinished hkind
    have hended := ended_concat trace ⟨.sink ⟨state.nextSeq, kind⟩, r⟩ rfl
    cases r with
    | ok _ | error _ => exact ⟨hrunning _, hended⟩

theorem keeps_emit (event : ProviderEvent) (h : Running trace state) :
    watch.Keeps trace (emit weights event state)
      (fun pushed trace' => Running trace' pushed.2 ∧ ended trace' = ended trace) := by
  unfold emit
  split
  . exact ⟨h, rfl⟩
  . exact keeps_pushEvent rfl h

theorem keeps_handleTool {state : ToolState} (h : Running trace state.turn) :
    watch.Keeps trace (handleTool weights a state)
      (fun handled trace' => Running trace' handled.2.turn ∧ ended trace' = ended trace) := by
  have hother : ∀ a : ToolBridge.Act, watch.Keeps trace (do
      let r ← perform (.tool a)
      return (r, state))
      (fun handled trace' => Running trace' handled.2.turn ∧ ended trace' = ended trace) := by
    intro a
    rw [keeps_perform_bind]
    exact ⟨trivial, fun r => ⟨h.concat _ rfl, ended_concat _ _ rfl⟩⟩
  cases a with
  | sink event =>
    unfold handleTool
    apply (keeps_pushEvent rfl h).bind
    rintro ⟨result, turn⟩ trace' hpushed
    exact hpushed
  | externalFlag =>
    unfold handleTool
    rw [keeps_perform_bind]
    exact ⟨trivial, fun r => ⟨h.concat _ rfl, ended_concat _ _ rfl⟩⟩
  | _ => exact hother _

theorem keeps_finishTool (result : ToolBridge.Result ToolBridge.DispatchResult) {state : ToolState}
    (h : Running trace state.turn) :
    watch.Keeps trace (finishTool weights result state)
      (fun finished trace' => Running trace' finished.2 ∧ ended trace' = ended trace) := by
  have hreport : ∀ kind outcome, kind.isTerminal = false →
      watch.Keeps trace (reportCall weights kind outcome state.turn)
        (fun finished trace' => Running trace' finished.2 ∧ ended trace' = ended trace) := by
    intro kind outcome hkind
    unfold reportCall
    apply (keeps_pushEvent hkind h).bind
    rintro ⟨result, turn⟩ trace' hpushed
    exact hpushed
  match result with
  | .error error => exact ⟨h, rfl⟩
  | .ok (.executed _ _ _ _) => exact ⟨h, rfl⟩
  | .ok (.existing snapshot) => exact hreport _ _ rfl
  | .ok (.inhibited snapshot) => exact hreport _ _ rfl

theorem keeps_invokeTool (h : Running trace state) :
    watch.Keeps trace (invokeTool limits weights rounds request.scope call state)
      (fun invoked trace' => Running trace' invoked.2 ∧ ended trace' = ended trace) := by
  unfold invokeTool
  split
  . exact ⟨h, rfl⟩
  . rw [keeps_perform_bind]
    refine ⟨trivial, ?_⟩
    intro flag
    have hflag : Running (trace ++ [⟨.cancelled, flag⟩]) state := h.concat _ rfl
    have hended := ended_concat trace ⟨.cancelled, flag⟩ rfl
    split
    . exact ⟨hflag, hended⟩
    . refine (keeps_handle (R := fun _ (state : ToolState) trace' =>
        Running trace' state.turn ∧ ended trace' = ended trace) ?_
        (keeps_free (P := fun _ => True) fun _ => trivial) ⟨hflag, hended⟩).bind ?_
      . intro a _ state trace' _ hR
        apply (keeps_handleTool hR.1).mono
        intro handled trace'' hhandled
        exact ⟨hhandled.1, hhandled.2.trans hR.2⟩
      . rintro ⟨result, state⟩ trace' ⟨_, _, hR⟩
        apply (keeps_finishTool result hR.1).mono
        intro finished trace'' hfinished
        exact ⟨hfinished.1, hfinished.2.trans hR.2⟩

theorem ended_concat_outcome {terminal : ProviderTerminal} (hended : ended trace = none)
    (h : outcome event = some terminal) :
    ended (trace ++ [event]) = some terminal := by
  unfold ended at hended ⊢
  simp [findSome?_append, hended, h]

theorem keeps_serve (h : Running trace state) (hended : ended trace = none) :
    watch.Keeps trace (serve limits weights rounds request reply state)
      (fun served trace' => match served with
        | .inl (_, state') => Running trace' state' ∧ ended trace' = none
        | .inr (terminal, state') => Running trace' state' ∧ ended trace' = some terminal) := by
  unfold serve
  rw [keeps_perform_bind]
  refine ⟨trivial, ?_⟩
  intro move
  have hmove : Running (trace ++ [⟨.resume reply, move⟩]) state := h.concat _ rfl
  change watch.Keeps (trace ++ [⟨.resume reply, move⟩]) _ _
  cases move with
  | emit event =>
    apply (keeps_emit event hmove).bind
    rintro ⟨result, state'⟩ trace' ⟨hrunning, hsame⟩
    exact ⟨hrunning, by rw [hsame, ended_concat _ _ rfl, hended]⟩
  | invokeTool call =>
    apply (keeps_invokeTool hmove).bind
    rintro ⟨result, state'⟩ trace' ⟨hrunning, hsame⟩
    exact ⟨hrunning, by rw [hsame, ended_concat _ _ rfl, hended]⟩
  | isCancelled =>
    rw [keeps_perform_bind]
    refine ⟨trivial, ?_⟩
    intro flag
    refine ⟨hmove.concat _ rfl, ?_⟩
    change ended (_ ++ [_]) = none
    rw [ended_concat _ _ rfl, ended_concat _ _ rfl, hended]
  | finish _ | panicked => exact ⟨hmove, ended_concat_outcome hended rfl⟩

theorem keeps_runProvider (h : Running trace state) (hended : ended trace = none) :
    watch.Keeps trace (runProvider limits weights rounds request state)
      (fun provided trace' => Running trace' provided.2 ∧ ending trace' = provided.1) := by
  unfold runProvider
  rw [keeps_perform_bind]
  refine ⟨trivial, ?_⟩
  intro flag
  have hflag : Running (trace ++ [⟨.cancelled, flag⟩]) state := h.concat _ rfl
  have hended : ended (trace ++ [⟨.cancelled, flag⟩]) = none := by
    rw [ended_concat _ _ rfl]
    exact hended
  split
  . refine ⟨hflag, ?_⟩
    unfold ending
    change (ended (trace ++ [_])).getD _ = _
    rw [hended]
    rfl
  . unfold runTurn
    apply keeps_iterate (I := fun (served : Reply × TurnState) trace' =>
      Running trace' served.2 ∧ ended trace' = none)
    . rintro ⟨reply, state⟩ trace' ⟨hrunning, hnone⟩
      apply (keeps_serve hrunning hnone).mono
      rintro (⟨reply', state'⟩ | ⟨terminal, state'⟩) trace'' hserved
      . exact hserved
      . refine ⟨hserved.1, ?_⟩
        unfold ending
        rw [hserved.2]
        rfl
    . exact ⟨hflag, hended⟩

def beforeEnd (events : List TurnEvent) : List TurnEvent :=
  events.filter (fun event => !event.kind.isTerminal)

def CanEnd (trace : Trace) : Prop :=
  validateTerminal (ending trace) = .ok ()
    ∧ (beforeEnd (delivered trace)).length < Checked.u64Max

theorem Running.beforeEnd_delivered (h : Running trace state) :
    beforeEnd (delivered trace) = delivered trace := by
  unfold beforeEnd
  rw [filter_eq_self]
  intro event hmem
  rw [h.unfinished event hmem]
  rfl

theorem Running.not_terminal (h : Running trace state) :
    ¬ ∃ event ∈ delivered trace, event.kind.isTerminal = true := by
  rintro ⟨event, hmem, hterminal⟩
  rw [h.unfinished event hmem] at hterminal
  cases hterminal

theorem keeps_finishTurn {terminal : ProviderTerminal} (h : Running trace state)
    (hending : ending trace = terminal) :
    watch.Keeps trace (finishTurn weights request terminal state)
      (fun _ trace' => (∃ event ∈ delivered trace', event.kind.isTerminal = true)
        ↔ CanEnd trace') := by
  unfold finishTurn
  split
  next error herror =>
    constructor
    . intro hterminal
      exact absurd hterminal h.not_terminal
    . intro hcan
      rw [CanEnd, hending, herror] at hcan
      cases hcan.1
  next hok =>
    rw [keeps_bind]
    unfold pushEvent
    split
    next hnone =>
      constructor
      . intro hterminal
        exact absurd hterminal h.not_terminal
      . intro hcan
        have hlength := hcan.2
        rw [h.beforeEnd_delivered, ← h.seq] at hlength
        have hsome : Checked.add state.nextSeq 1 = some (state.nextSeq + 1) :=
          Checked.add_eq_some.mpr ⟨rfl, hlength⟩
        rw [hnone] at hsome
        cases hsome
    next nextSeq hnext =>
      rw [keeps_perform_bind]
      refine ⟨h.follows _, ?_⟩
      intro r
      have hiff : (∃ event ∈ delivered (trace ++ [⟨.sink ⟨state.nextSeq, .turnTerminal terminal⟩, r⟩]),
          event.kind.isTerminal = true)
            ↔ CanEnd (trace ++ [⟨.sink ⟨state.nextSeq, .turnTerminal terminal⟩, r⟩]) := by
        rw [CanEnd, ending, ended_concat _ _ rfl, delivered_concat_sink]
        constructor
        . intro _
          refine ⟨?_, ?_⟩
          . rw [← ending, hending]
            exact hok
          . rw [beforeEnd, filter_append, ← beforeEnd, h.beforeEnd_delivered,
              length_append, ← h.seq]
            exact (Checked.add_eq_some.mp hnext).2
        . intro _
          exact ⟨_, mem_append_right _ (mem_singleton.mpr rfl), rfl⟩
      cases r with
      | ok _ | error _ => exact hiff

theorem running_accepted {r : Except SinkFailure Unit} :
    Running [⟨.sink ⟨0, .turnAccepted⟩, r⟩] ⟨retained, 1⟩ := by
  constructor
  . rfl
  . exact cons_ne_nil _ _
  . exact forall_mem_singleton.mpr rfl

theorem keeps_runWithSinkAndCancellation (hpreflight : preflight limits request = .ok ()) :
    watch.Keeps [] (runWithSinkAndCancellation limits weights rounds request)
      (fun _ trace => Refused trace
        ∨ ((∃ event ∈ delivered trace, event.kind.isTerminal = true) ↔ CanEnd trace)) := by
  unfold runWithSinkAndCancellation
  rw [hpreflight]
  dsimp only
  rw [keeps_bind]
  change watch.Keeps [] (perform (.sink ⟨0, .turnAccepted⟩) >>= _) _
  rw [keeps_perform_bind]
  refine ⟨⟨rfl, fun _ => rfl, fun _ hmem => absurd hmem not_mem_nil⟩, ?_⟩
  intro r
  cases r with
  | error failure => exact .inl ⟨_, failure, mem_singleton.mpr rfl⟩
  | ok _ =>
    change watch.Keeps [_] (runProvider limits weights rounds request _ >>= _) _
    apply (keeps_runProvider running_accepted rfl).bind
    rintro ⟨terminal, state⟩ trace ⟨hrunning, hending⟩
    apply (keeps_finishTurn hrunning hending).mono
    intro _ trace' hiff
    exact .inr hiff

end Keeps

section Sample

def sampleRequest : TurnRequest := ⟨"session-1", "owner-open", "task-1", "turn-1", "stream-1", "hi"⟩

def sampleWeights : Weights := ⟨fun _ => none, fun _ => none⟩

def sampleTrace (result : Except String ProviderTerminal) : Trace :=
  [⟨.sink ⟨0, .turnAccepted⟩, .ok ()⟩, ⟨.cancelled, false⟩,
    ⟨.resume (.start sampleRequest), .finish result⟩]

theorem accepts_sampleTrace (result : Except String ProviderTerminal) (event : TurnEvent)
    (r : Except SinkFailure Unit) (hmem : ⟨.sink event, r⟩ ∈ sampleTrace result) : r = .ok () := by
  simp [sampleTrace] at hmem
  exact hmem.2

theorem delivered_closed_iff {limits : BridgeLimits} {weights : Weights} {rounds : Nat}
    {request : TurnRequest} {trace : Trace} {result : Result TurnRun}
    (hpreflight : preflight limits request = .ok ())
    (hruns : (runWithSinkAndCancellation limits weights rounds request).Runs trace result)
    (haccepts : ∀ event r, ⟨.sink event, r⟩ ∈ trace → r = .ok ()) :
    Closed (delivered trace)
      ↔ validateTerminal (ending trace) = .ok ()
        ∧ (beforeEnd (delivered trace)).length < Checked.u64Max := by
  have hkeeps := @keeps_runWithSinkAndCancellation limits weights rounds request hpreflight
  rw [(ordered_after hkeeps hruns).closed_iff]
  have hdone := hkeeps.runs hruns
  unfold watch at hdone
  rw [after_history] at hdone
  cases hdone with
  | inl hrefused =>
    obtain ⟨event, failure, hmem⟩ := hrefused
    cases haccepts _ _ hmem
  | inr hiff => exact hiff

theorem delivered_closed_sample : ∃ trace result,
    (runWithSinkAndCancellation .default sampleWeights 1 sampleRequest).Runs trace result
      ∧ (Closed (delivered trace) ↔ validateTerminal (ending trace) = .ok ()
        ∧ (beforeEnd (delivered trace)).length < Checked.u64Max) := by
  let terminal : ProviderTerminal := ⟨.completed, some "done", none⟩
  let trace := sampleTrace (.ok terminal) ++ [⟨.sink ⟨1, .turnTerminal terminal⟩, .ok ()⟩]
  have hruns : (runWithSinkAndCancellation .default sampleWeights 1 sampleRequest).Runs trace
      (.ok ⟨sampleRequest, [], terminal⟩) := .act (.act (.act (.act (.refl _))))
  refine ⟨trace, _, hruns, delivered_closed_iff rfl hruns ?_⟩
  intro event r hmem
  cases mem_append.mp hmem with
  | inl hmem => exact accepts_sampleTrace _ event r hmem
  | inr hmem =>
    cases mem_singleton.mp hmem
    rfl

theorem open_turn_nul_error : preflight .default sampleRequest = .ok () ∧ ∃ trace result,
    (runWithSinkAndCancellation .default sampleWeights 1 sampleRequest).Runs trace result
      ∧ (∀ event r, ⟨.sink event, r⟩ ∈ trace → r = .ok ())
      ∧ ¬ Closed (delivered trace) := by
  refine ⟨rfl, sampleTrace (.error "\x00"),
    .error (invalid "provider terminal text contains a NUL or exceeds one MiB"), ?_,
    accepts_sampleTrace _, ?_⟩
  . exact .act (.act (.act (.refl _)))
  . intro hclosed
    have hcount := hclosed.once
    cases hcount

end Sample

end TurnLoop
