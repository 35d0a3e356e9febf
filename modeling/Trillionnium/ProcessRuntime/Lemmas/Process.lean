import Trillionnium.ProcessRuntime.Lemmas.Trace

/-!
The events of an execution in their order, the bytes that they carry and the reason for the end, as
an invariant of the execution.
-/

namespace ProcessRuntime

open Concurrent Stream List
open Json (Bytes)

variable {kind : TerminalKind} {sequence : Nat}

def transcript (started : Option Nat) (outputs : List (StreamKind × Bytes))
    (terminal : Option ExecutionTerminal) : List ExecutionEventKind :=
  .accepted :: (started.map .started).toList
    ++ outputs.map (fun (stream, bytes) => .output stream bytes)
    ++ (terminal.map .terminal).toList

structure Lawful (events : List ExecutionEvent) : Prop where
  seqs : events.map ExecutionEvent.seq = List.range events.length
  kinds : ∃ started outputs terminal,
    events.map ExecutionEvent.kind <+: transcript started outputs (some terminal)
      ∧ (started = none → outputs = [])

structure Delivered (limits : MechanicalLimits) (trace : Trace) (terminal : ExecutionTerminal) :
    Prop where
  seqs : (emitted trace).map ExecutionEvent.seq = List.range (emitted trace).length
  kinds : ∃ started,
    (emitted trace).map ExecutionEvent.kind = transcript started (delivered trace) (some terminal)
      ∧ (started = none → delivered trace = [])
  stdout : terminal.stdoutBytes = (content StreamKind.isStdout (delivered trace)).length
  stderr : terminal.stderrBytes
    = (content (fun stream => !stream.isStdout) (delivered trace)).length
  limit : terminal.stdoutBytes + terminal.stderrBytes ≤ limits.maxOutputBytes
  streams : ∀ stream,
    content (fun stream' => stream' == stream) (delivered trace)
      <+: content (fun stream' => stream' == stream)
        (upToExcess limits.maxOutputBytes (received trace))

structure Accounts (limits : MechanicalLimits) (started : Option Nat) (trace : Trace)
    (sequence stdoutBytes stderrBytes : Nat) : Prop where
  seqs : (emitted trace).map ExecutionEvent.seq = List.range (emitted trace).length
  sequence : sequence = (emitted trace).length
  kinds : (emitted trace).map ExecutionEvent.kind
    = transcript started (deliver limits.maxOutputBytes (received trace)) none
  started : started = none → received trace = []
  stdout : stdoutBytes
    = (content StreamKind.isStdout (deliver limits.maxOutputBytes (received trace))).length
  stderr : stderrBytes = (content (fun stream => !stream.isStdout)
    (deliver limits.maxOutputBytes (received trace))).length

structure Blames (limits : MechanicalLimits) (trace : Trace) (forcedKind : Option TerminalKind) :
    Prop where
  undisturbed : forcedKind = none ↔ Undisturbed limits trace
  exceeded : forcedKind = some .outputLimitExceeded ↔ Exceeded limits trace

namespace Blames

variable {limits : MechanicalLimits} {trace : Trace} {forcedKind : Option TerminalKind}
  {event : Sigma Act.Res}

theorem not_excess (hreceived : receivedBy event = none) : ¬Excess limits trace event := by
  rintro ⟨stream, bytes, rfl, _⟩
  cases hreceived

section

variable (h : Blames limits trace forcedKind)
include h

theorem quiet (hexcess : ¬Excess limits trace event)
    (hstops : stops event = false) (hfails : fails event = false) :
    Blames limits (trace ++ [event]) forcedKind := by
  constructor
  . rw [undisturbed_concat, h.undisturbed]
    simp [hexcess, hstops, hfails]
  . rw [exceeded_concat, h.exceeded]
    simp [hexcess, hfails]

theorem silent (hreceived : receivedBy event = none)
    (hstops : stops event = false) (hfails : fails event = false) :
    Blames limits (trace ++ [event]) forcedKind :=
  h.quiet (not_excess hreceived) hstops hfails

theorem stops (hreceived : receivedBy event = none) (hstops : stops event = true)
    (hfails : fails event = false) (hkind : kind ≠ .outputLimitExceeded) :
    Blames limits (trace ++ [event]) (some (forcedKind.getD kind)) := by
  have hexcess : ¬Excess limits trace event := not_excess hreceived
  constructor
  . rw [undisturbed_concat]
    simp [hstops]
  . rw [exceeded_concat, ← h.exceeded]
    cases forcedKind with
    | none => simp [hexcess, hkind]
    | some kind' => simp [hexcess, hfails]

theorem later (hforced : forcedKind.isSome)
    (hreceived : receivedBy event = none) (hfails : fails event = false) :
    Blames limits (trace ++ [event]) forcedKind := by
  have hexcess : ¬Excess limits trace event := not_excess hreceived
  have hdisturbed : ¬Undisturbed limits trace := by
    rw [← h.undisturbed]
    exact Option.isSome_iff_ne_none.mp hforced
  constructor
  . rw [undisturbed_concat, h.undisturbed]
    simp [hdisturbed]
  . rw [exceeded_concat, h.exceeded]
    simp [hexcess, hfails]

end

theorem fails (hfails : fails event = true) : Blames limits (trace ++ [event]) (some .ioError) := by
  have hexcess : ¬Excess limits trace event := by
    intro hexcess
    rw [fails_of_excess hexcess] at hfails
    cases hfails
  constructor
  . rw [undisturbed_concat]
    simp [hfails]
  . rw [exceeded_concat]
    simp [hexcess, hfails]

theorem excess (h : Blames limits trace forcedKind) (hexcess : Excess limits trace event) :
    Blames limits (trace ++ [event]) (some (forcedKind.getD .outputLimitExceeded)) := by
  have hfails : ProcessRuntime.fails event = false := fails_of_excess hexcess
  constructor
  . rw [undisturbed_concat]
    simp [hexcess]
  . rw [exceeded_concat, ← h.exceeded, ← h.undisturbed]
    cases forcedKind with
    | none => simp [hexcess]
    | some kind => simp [hfails]

end Blames

structure Invariant (limits : MechanicalLimits) (started : Option Nat) (trace : Trace)
    (progress : Progress) : Prop where
  accounts : Accounts limits started trace progress.sequence progress.stdoutBytes
    progress.stderrBytes
  blames : Blames limits trace progress.forcedKind

section Accounts

variable {limits : MechanicalLimits} {started : Option Nat} {trace trace' : Trace}
  {sequence stdoutBytes stderrBytes : Nat}

theorem Accounts.congr (h : Accounts limits started trace sequence stdoutBytes stderrBytes)
    (hsent : emitted trace' = emitted trace)
    (hdelivered : deliver limits.maxOutputBytes (received trace')
      = deliver limits.maxOutputBytes (received trace))
    (hstarted : started = none → received trace' = []) :
    Accounts limits started trace' sequence stdoutBytes stderrBytes := by
  constructor
  . rw [hsent]
    exact h.seqs
  . rw [hsent]
    exact h.sequence
  . rw [hsent, hdelivered]
    exact h.kinds
  . exact hstarted
  . rw [hdelivered]
    exact h.stdout
  . rw [hdelivered]
    exact h.stderr

theorem Accounts.silent (h : Accounts limits started trace sequence stdoutBytes stderrBytes)
    (hemitted : emittedBy event = none) (hreceived : receivedBy event = none) :
    Accounts limits started (trace ++ [event]) sequence stdoutBytes stderrBytes := by
  have hgot : received (trace ++ [event]) = received trace := by
    rw [received_concat, hreceived]
    exact append_nil _
  apply h.congr
  . rw [emitted_concat, hemitted]
    exact append_nil _
  . rw [hgot]
  . rw [hgot]
    exact h.started

end Accounts

section Transcript

variable {started : Option Nat} {outputs : List (StreamKind × Bytes)}

theorem transcript_terminal (terminal : ExecutionTerminal) :
    transcript started outputs none ++ [.terminal terminal]
      = transcript started outputs (some terminal) := by
  simp [transcript]

theorem transcript_output :
    transcript started outputs none ++ [.output stream bytes]
      = transcript started (outputs ++ [(stream, bytes)]) none := by
  simp [transcript]

theorem transcript_started :
    transcript none [] none ++ [.started pid] = transcript (some pid) [] none := rfl

theorem delivered_of_kinds {trace : Trace} {terminal : Option ExecutionTerminal}
    (h : (emitted trace).map ExecutionEvent.kind = transcript started outputs terminal) :
    delivered trace = outputs := by
  have hkinds : delivered trace
      = ((emitted trace).map ExecutionEvent.kind).filterMap ExecutionEventKind.output? := by
    rw [filterMap_map]
    rfl
  have houtputs : (outputs.map fun (stream, bytes) => ExecutionEventKind.output stream bytes).filterMap
      ExecutionEventKind.output? = outputs := by
    rw [filterMap_map]
    exact filterMap_some
  have hstarted : (.accepted :: (started.map ExecutionEventKind.started).toList).filterMap
      ExecutionEventKind.output? = [] := by
    cases started <;> rfl
  have hterminal : (terminal.map ExecutionEventKind.terminal).toList.filterMap
      ExecutionEventKind.output? = [] := by
    cases terminal <;> rfl
  rw [hkinds, h]
  unfold transcript
  rw [filterMap_append, filterMap_append, hstarted, houtputs, hterminal, append_nil]
  rfl

theorem length_transcript_le : (transcript started outputs none).length ≤ 2 + outputs.length := by
  have hstarted : (started.map ExecutionEventKind.started).toList.length ≤ 1 := by
    cases started <;> simp
  simp only [transcript, cons_append, length_cons, length_append, length_map,
    Option.map_none, Option.toList_none, length_nil]
  omega

end Transcript

def watch : Monitor Act Act.Res Trace :=
  .history fun trace a => ∀ event, a = .emit event → Lawful (emitted trace ++ [event])

section Keeps

variable {limits : MechanicalLimits} {started : Option Nat} {trace : Trace} {progress : Progress}
  {spec : ProcessSpec}

theorem keeps_perform_bind {α : Type} {a : Act} {f : a.Res → Run α} {Q : α → Trace → Prop}
    (h : ∀ r, watch.Keeps (trace ++ [⟨a, r⟩]) (f r) Q)
    (ha : (emittedBy ⟨a, ·⟩) = fun _ => none) :
    watch.Keeps trace (perform a >>= f) Q := by
  refine ⟨?_, h⟩
  intro event heq
  rw [heq] at ha
  cases congrFun ha ()

def emitTrace (trace : Trace) (elapsedMs : Nat) (event : ExecutionEvent) : Trace :=
  trace ++ [⟨.elapsed, elapsedMs⟩] ++ [⟨.emit event, ()⟩]

theorem emitted_emitTrace (trace : Trace) (elapsedMs : Nat) (event : ExecutionEvent) :
    emitted (emitTrace trace elapsedMs event) = emitted trace ++ [event] := by
  unfold emitTrace
  rw [emitted_concat, emitted_concat]
  simp [emittedBy]

theorem received_emitTrace (trace : Trace) (elapsedMs : Nat) (event : ExecutionEvent) :
    received (emitTrace trace elapsedMs event) = received trace := by
  unfold emitTrace
  rw [received_concat, received_concat]
  simp [receivedBy]

theorem blames_emitTrace (h : Blames limits trace forcedKind) :
    Blames limits (emitTrace trace elapsedMs event) forcedKind := by
  exact (h.silent rfl rfl rfl).silent rfl rfl rfl

theorem exceeded_emitTrace :
    Exceeded limits (emitTrace trace elapsedMs event) ↔ Exceeded limits trace := by
  have hsilent : ∀ trace event, receivedBy event = none → fails event = false
      → (Exceeded limits (trace ++ [event]) ↔ Exceeded limits trace) := by
    intro trace event hreceived hfails
    rw [exceeded_concat]
    simp [Blames.not_excess hreceived, hfails]
  unfold emitTrace
  rw [hsilent _ _ rfl rfl, hsilent _ _ rfl rfl]

theorem keeps_emit {kind : ExecutionEventKind} {Q : Nat → Trace → Prop}
    (hseqs : (emitted trace).map ExecutionEvent.seq = List.range (emitted trace).length)
    (h : ∀ event, event.kind = kind
      → (emitted trace ++ [event]).map ExecutionEvent.seq = List.range (emitted trace ++ [event]).length
      → Lawful (emitted trace ++ [event]) ∧ ∀ elapsedMs,
        Q (min ((emitted trace).length + 1) Checked.u64Max) (emitTrace trace elapsedMs event)) :
    watch.Keeps trace (emit spec (emitted trace).length kind) Q := by
  have hevent := fun (event : ExecutionEvent) (hseq : event.seq = (emitted trace).length) hkind =>
    h event hkind (by
      rw [map_append, hseqs, length_append, length_singleton, range_succ, ← hseq]
      rfl)
  unfold emit
  refine keeps_perform_bind ?_ rfl
  intro elapsedMs
  refine ⟨?_, fun _ => (hevent _ rfl rfl).2 elapsedMs⟩
  intro event heq
  cases heq
  rw [emitted_concat]
  simp only [emittedBy, Option.toList_none, append_nil]
  exact (hevent _ rfl rfl).1

theorem keeps_emit_accounts {sequence stdoutBytes stderrBytes : Nat} {kind : ExecutionEventKind}
    {forcedKind : Option TerminalKind} (hmax : limits.maxOutputBytes ≤ maxRuntimeOutputBytes)
    (hseqs : (emitted trace).map ExecutionEvent.seq = List.range (emitted trace).length)
    (hsequence : sequence = (emitted trace).length)
    (hkinds : (emitted trace).map ExecutionEvent.kind ++ [kind]
      = transcript started (deliver limits.maxOutputBytes (received trace)) none)
    (hstarted : started = none → received trace = [])
    (hstdout : stdoutBytes
      = (content StreamKind.isStdout (deliver limits.maxOutputBytes (received trace))).length)
    (hstderr : stderrBytes = (content (fun stream => !stream.isStdout)
      (deliver limits.maxOutputBytes (received trace))).length)
    (hblames : Blames limits trace forcedKind) :
    watch.Keeps trace (emit spec sequence kind) (fun sequence' trace' =>
      Accounts limits started trace' sequence' stdoutBytes stderrBytes
        ∧ Blames limits trace' forcedKind ∧ received trace' = received trace) := by
  subst hsequence
  -- There is at most one event for each byte of the output, so the numbers do not saturate.
  have hroom : (emitted trace).length + 1 ≤ Checked.u64Max := by
    have hlength := congrArg List.length hkinds
    rw [length_append, length_map, length_singleton] at hlength
    have hle := @length_transcript_le started (deliver limits.maxOutputBytes (received trace))
    have hbytes := length_deliver_le limits.maxOutputBytes (received trace)
    rw [total_deliver] at hbytes
    unfold maxRuntimeOutputBytes at hmax
    unfold Checked.u64Max
    omega
  apply keeps_emit hseqs
  intro event hkind hseqs'
  have hkinds' : (emitted trace ++ [event]).map ExecutionEvent.kind
      = transcript started (deliver limits.maxOutputBytes (received trace)) none := by
    rw [map_append, ← hkinds, ← hkind]
    rfl
  constructor
  . let terminal : ExecutionTerminal := ⟨.exited, none, none, 0, 0, false, 0, none⟩
    refine ⟨hseqs', started, deliver limits.maxOutputBytes (received trace), terminal, ?_, ?_⟩
    . rw [hkinds', ← transcript_terminal]
      exact prefix_append _ _
    . intro hnone
      rw [hstarted hnone]
      rfl
  . intro elapsedMs
    refine ⟨?_, blames_emitTrace hblames, received_emitTrace trace elapsedMs event⟩
    have hsent := emitted_emitTrace trace elapsedMs event
    constructor
    . rw [hsent]
      exact hseqs'
    . rw [hsent, length_append, Nat.min_eq_left hroom]
      rfl
    . rw [hsent, received_emitTrace]
      exact hkinds'
    . rw [received_emitTrace]
      exact hstarted
    . rw [received_emitTrace]
      exact hstdout
    . rw [received_emitTrace]
      exact hstderr

structure Ended (limits : MechanicalLimits) (terminal : ExecutionTerminal) (trace : Trace) :
    Prop where
  complete : Delivered limits trace terminal
  truncated : total (delivered trace) < total (received trace)
    → (terminal.outputTruncated = true ↔ Exceeded limits trace)

theorem keeps_terminal {terminal : ExecutionTerminal}
    (haccounts : Accounts limits started trace sequence terminal.stdoutBytes terminal.stderrBytes)
    (htruncated : received trace ≠ [] → (terminal.outputTruncated = true ↔ Exceeded limits trace)) :
    watch.Keeps trace (do
      let _ ← emit spec sequence (.terminal terminal)
      return terminal) (Ended limits) := by
  rw [Monitor.keeps_bind, haccounts.sequence]
  have hstarted : started = none → deliver limits.maxOutputBytes (received trace) = [] := by
    intro hnone
    rw [haccounts.started hnone]
    rfl
  apply keeps_emit haccounts.seqs
  intro event hkind hseqs
  have hkinds : (emitted trace ++ [event]).map ExecutionEvent.kind
      = transcript started (deliver limits.maxOutputBytes (received trace)) (some terminal) := by
    rw [map_append, haccounts.kinds, ← transcript_terminal, ← hkind]
    rfl
  constructor
  . exact ⟨hseqs, started, _, terminal, by rw [hkinds], hstarted⟩
  . intro elapsedMs
    have hsent := emitted_emitTrace trace elapsedMs event
    have hgot := received_emitTrace trace elapsedMs event
    have hdelivered : delivered (emitTrace trace elapsedMs event)
        = deliver limits.maxOutputBytes (received trace) := by
      apply delivered_of_kinds
      rw [hsent]
      exact hkinds
    constructor
    . constructor
      . rw [hsent]
        exact hseqs
      . refine ⟨started, ?_, ?_⟩
        . rw [hsent, hdelivered]
          exact hkinds
        . rw [hdelivered]
          exact hstarted
      . rw [hdelivered]
        exact haccounts.stdout
      . rw [hdelivered]
        exact haccounts.stderr
      . rw [haccounts.stdout, haccounts.stderr, ← total_eq_content, total_deliver]
        exact Nat.min_le_left _ _
      . intro stream
        rw [hdelivered, hgot]
        exact content_deliver_prefix _ _ _
    . rw [hgot, exceeded_emitTrace]
      intro hdropped
      apply htruncated
      intro hnil
      rw [hnil] at hdropped
      exact absurd hdropped (Nat.not_lt_zero _)

structure Opened (limits : MechanicalLimits) (started : Option Nat) (sequence : Nat) (trace : Trace) :
    Prop where
  accounts : Accounts limits started trace sequence 0 0
  blames : Blames limits trace none
  received : received trace = []

def verdict (event : Sigma Act.Res) : Option (Bool × Bool) :=
  if (emittedBy event).isNone ∧ (receivedBy event).isNone then some (stops event, fails event)
  else none

theorem verdict_eq_some (h : verdict event = some (stopped, failed)) :
    emittedBy event = none ∧ receivedBy event = none ∧ stops event = stopped ∧ fails event = failed := by
  simpa [verdict, and_assoc] using h

theorem Opened.silent (h : Opened limits started sequence trace)
    (hevent : verdict event = some (false, false)) :
    Opened limits started sequence (trace ++ [event]) := by
  obtain ⟨hemitted, hreceived, hstops, hfails⟩ := verdict_eq_some hevent
  refine ⟨h.accounts.silent hemitted hreceived, h.blames.silent hreceived hstops hfails, ?_⟩
  rw [received_concat, hreceived, h.received]
  rfl

theorem keeps_stop {error : String} (haccounts : Accounts limits started trace sequence 0 0)
    (hreceived : received trace = []) :
    watch.Keeps trace (stop spec sequence kind error) (Ended limits) := by
  unfold stop
  refine keeps_perform_bind ?_ rfl
  intro elapsedMs
  apply keeps_terminal (haccounts.silent rfl rfl)
  intro hne
  rw [received_concat, hreceived] at hne
  exact absurd rfl hne

theorem Opened.keeps_stop {error : String} (h : Opened limits started sequence trace)
    (hevent : verdict event = some result) :
    watch.Keeps (trace ++ [event]) (stop spec sequence kind error) (Ended limits) := by
  obtain ⟨hemitted, hreceived, _⟩ := verdict_eq_some hevent
  apply ProcessRuntime.keeps_stop (h.accounts.silent hemitted hreceived)
  rw [received_concat, hreceived, h.received]
  rfl

namespace Invariant

variable (h : Invariant limits started trace progress)
include h

theorem silent (hevent : verdict event = some (false, false)) :
    Invariant limits started (trace ++ [event]) progress := by
  obtain ⟨hemitted, hreceived, hstops, hfails⟩ := verdict_eq_some hevent
  exact ⟨h.accounts.silent hemitted hreceived, h.blames.silent hreceived hstops hfails⟩

theorem force (hevent : verdict event = some (true, false)) (hkind : kind ≠ .outputLimitExceeded) :
    Invariant limits started (trace ++ [event]) (progress.force kind) := by
  obtain ⟨hemitted, hreceived, hstops, hfails⟩ := verdict_eq_some hevent
  exact ⟨h.accounts.silent hemitted hreceived, h.blames.stops hreceived hstops hfails hkind⟩

theorem fail (hevent : verdict event = some (stopped, true)) :
    Invariant limits started (trace ++ [event]) progress.fail := by
  obtain ⟨hemitted, hreceived, _, hfails⟩ := verdict_eq_some hevent
  exact ⟨h.accounts.silent hemitted hreceived, .fails hfails⟩

theorem later (hforced : progress.forcedKind.isSome) (hevent : verdict event = some (stopped, false)) :
    Invariant limits started (trace ++ [event]) progress := by
  obtain ⟨hemitted, hreceived, _, hfails⟩ := verdict_eq_some hevent
  exact ⟨h.accounts.silent hemitted hreceived, h.blames.later hforced hreceived hfails⟩

theorem congr {progress' : Progress} (hsequence : progress'.sequence = progress.sequence)
    (hstdout : progress'.stdoutBytes = progress.stdoutBytes)
    (hstderr : progress'.stderrBytes = progress.stderrBytes)
    (hforced : progress'.forcedKind = progress.forcedKind) :
    Invariant limits started trace progress' := by
  constructor
  . rw [hsequence, hstdout, hstderr]
    exact h.accounts
  . rw [hforced]
    exact h.blames

theorem note (error : String) : Invariant limits started trace (progress.note error) :=
  h.congr rfl rfl rfl rfl

theorem setStatus (status : Option ExitStatus) :
    Invariant limits started trace (progress.setStatus status) :=
  h.congr rfl rfl rfl rfl

theorem setEof (stream : StreamKind) : Invariant limits started trace (progress.setEof stream) := by
  unfold Progress.setEof
  split
  . exact h.congr rfl rfl rfl rfl
  . exact h.congr rfl rfl rfl rfl

end Invariant

section

variable (h : Invariant limits started trace progress)
include h

theorem keeps_observeExit :
    watch.Keeps trace (observeExit progress) (flip (Invariant limits started)) := by
  unfold observeExit
  split
  . exact h
  . refine keeps_perform_bind ?_ rfl
    intro r
    match r with
    | .ok (some status) =>
      have h' : Invariant limits started (trace ++ [⟨.tryWait, .ok (some status)⟩])
          (progress.setStatus (some status)) :=
        (h.silent rfl).setStatus (some status)
      refine keeps_perform_bind ?_ rfl
      intro r
      match r with
      | .ok true => exact (h'.force rfl (by simp)).note _
      | .ok false => exact h'.silent rfl
      | .error error => exact (h'.force rfl (by simp)).note _
    | .ok none => exact h.silent rfl
    | .error error => exact (h.note _).force rfl (by simp)

theorem keeps_observeStop :
    watch.Keeps trace (observeStop progress) (flip (Invariant limits started)) := by
  unfold observeStop
  split
  . exact h
  . refine keeps_perform_bind ?_ rfl
    intro cancelled
    cases cancelled with
    | true => exact h.force rfl (by simp)
    | false =>
      refine keeps_perform_bind ?_ rfl
      intro expired
      have h' : Invariant limits started (trace ++ [⟨.cancelled, false⟩]) progress := h.silent rfl
      cases expired with
      | true => exact h'.force rfl (by simp)
      | false => exact h'.silent rfl

theorem keeps_terminateProcessGroup :
    watch.Keeps trace (terminateProcessGroup progress) (fun progress trace =>
      Invariant limits started trace progress
        ∧ (progress.childStatus = none → progress.forcedKind.isSome)) := by
  unfold terminateProcessGroup
  refine keeps_perform_bind ?_ rfl
  intro r
  cases r with
  | ok status =>
    refine ⟨(h.silent rfl).setStatus _, ?_⟩
    intro hnone
    cases hnone
  | error error =>
    refine keeps_perform_bind ?_ rfl
    intro status
    refine ⟨?_, fun _ => rfl⟩
    exact (((h.note error).fail rfl).later rfl rfl).setStatus _

theorem keeps_terminateForced :
    watch.Keeps trace (terminateForced progress) (flip (Invariant limits started)) := by
  unfold terminateForced
  split
  . refine Monitor.Keeps.mono (keeps_terminateProcessGroup (h.congr rfl rfl rfl rfl)) ?_
    intro progress trace h
    exact h.1
  . exact h

end

section Chunk

variable {stream : StreamKind} {bytes : Bytes}

theorem received_chunk :
    received (trace ++ [⟨.receive, .chunk stream bytes⟩]) = received trace ++ [(stream, bytes)] := by
  rw [received_concat]
  rfl

theorem Accounts.used (h : Accounts limits started trace sequence stdoutBytes stderrBytes) :
    limits.maxOutputBytes - (stdoutBytes + stderrBytes)
      = limits.maxOutputBytes - total (received trace) := by
  rw [h.stdout, h.stderr, ← total_eq_content, total_deliver]
  omega

variable {forcedKind : Option TerminalKind} {pid : Nat}

theorem Blames.chunk (h : Blames limits trace forcedKind) :
    Blames limits (trace ++ [⟨.receive, .chunk stream bytes⟩])
      (if min bytes.length (limits.maxOutputBytes - total (received trace)) < bytes.length
          ∨ limits.maxOutputBytes - total (received trace) = 0 then
        some (forcedKind.getD .outputLimitExceeded)
      else
        forcedKind) := by
  split
  next hexcess =>
    apply h.excess
    refine ⟨stream, bytes, rfl, ?_⟩
    omega
  next hexcess =>
    apply h.quiet _ rfl rfl
    rintro ⟨stream', bytes', heq, hexcess'⟩
    cases heq
    omega

theorem count_eq (delivered : Nat) :
    (progress.count stream delivered).stdoutBytes
        = progress.stdoutBytes + (if stream.isStdout then delivered else 0)
      ∧ (progress.count stream delivered).stderrBytes
        = progress.stderrBytes + (if !stream.isStdout then delivered else 0)
      ∧ (progress.count stream delivered).forcedKind = progress.forcedKind := by
  unfold Progress.count
  cases stream.isStdout
  . exact ⟨rfl, rfl, rfl⟩
  . exact ⟨rfl, rfl, rfl⟩

theorem emitted_chunk : emitted (trace ++ [⟨.receive, .chunk stream bytes⟩]) = emitted trace := by
  rw [emitted_concat]
  exact append_nil _

theorem Accounts.dropped (h : Accounts limits started trace sequence stdoutBytes stderrBytes)
    (hstarted : started ≠ none)
    (hnone : min bytes.length (limits.maxOutputBytes - total (received trace)) = 0) :
    Accounts limits started (trace ++ [⟨.receive, .chunk stream bytes⟩]) sequence stdoutBytes
      stderrBytes := by
  apply h.congr emitted_chunk
  . rw [received_chunk, deliver_concat, take_eq_nil_iff.mpr]
    . exact append_nil _
    . rw [← length_eq_zero_iff]
      omega
  . intro hnone
    exact absurd hnone hstarted

section

variable (hmax : limits.maxOutputBytes ≤ maxRuntimeOutputBytes) (h : Invariant limits (some pid) trace progress)
include hmax h

theorem keeps_emit_chunk {delivered : Nat}
    (hblames : Blames limits (trace ++ [⟨.receive, .chunk stream bytes⟩]) forcedKind)
    (hdelivered : delivered = min bytes.length (limits.maxOutputBytes - total (received trace)))
    (hsome : delivered > 0) :
    watch.Keeps (trace ++ [⟨.receive, .chunk stream bytes⟩])
      (emit spec progress.sequence (.output stream (bytes.take delivered)))
      (fun sequence trace' => Accounts limits (some pid) trace' sequence
          (progress.count stream delivered).stdoutBytes (progress.count stream delivered).stderrBytes
        ∧ Blames limits trace' forcedKind) := by
  have houtputs : deliver limits.maxOutputBytes
      (received (trace ++ [⟨.receive, .chunk stream bytes⟩]))
      = deliver limits.maxOutputBytes (received trace) ++ [(stream, bytes.take delivered)] := by
    have htake : bytes.take (limits.maxOutputBytes - total (received trace))
        = bytes.take delivered := by
      rw [take_eq_take_iff]
      omega
    rw [received_chunk, deliver_concat, htake]
    unfold piece
    rw [if_neg]
    rw [List.isEmpty_iff, ← length_eq_zero_iff, length_take]
    omega
  have hlength : (bytes.take delivered).length = delivered := by
    rw [length_take]
    omega
  obtain ⟨hstdout, hstderr, _⟩ := @count_eq progress stream delivered
  have hkeeps := @keeps_emit_accounts limits (some pid) (trace ++ [⟨.receive, .chunk stream bytes⟩])
    spec progress.sequence (progress.count stream delivered).stdoutBytes
    (progress.count stream delivered).stderrBytes (.output stream (bytes.take delivered)) forcedKind
    hmax
  refine (hkeeps ?_ ?_ ?_ ?_ ?_ ?_ hblames).mono ?_
  . rw [emitted_chunk]
    exact h.accounts.seqs
  . rw [emitted_chunk]
    exact h.accounts.sequence
  . rw [emitted_chunk, houtputs, h.accounts.kinds, transcript_output]
  . intro hnone
    cases hnone
  . rw [hstdout, houtputs, content_append, length_append, ← h.accounts.stdout, content_cons,
      content_nil, append_nil, apply_ite List.length, hlength, length_nil]
  . rw [hstderr, houtputs, content_append, length_append, ← h.accounts.stderr, content_cons,
      content_nil, append_nil, apply_ite List.length, hlength, length_nil]
  . intro sequence trace' h
    exact ⟨h.1, h.2.1⟩

theorem keeps_receiveChunk :
    watch.Keeps (trace ++ [⟨.receive, .chunk stream bytes⟩])
      (receiveChunk spec limits progress stream bytes)
      (flip (Invariant limits (some pid))) := by
  unfold receiveChunk
  dsimp only
  rw [h.accounts.used, Monitor.keeps_bind]
  apply Monitor.Keeps.mono (Q := fun progress' trace' => Accounts limits (some pid) trace'
    progress'.sequence progress'.stdoutBytes progress'.stderrBytes
      ∧ Blames limits trace' _ ∧ progress'.forcedKind = progress.forcedKind)
  . unfold deliverChunk
    split
    next hsome =>
      apply (keeps_emit_chunk hmax h h.blames.chunk rfl hsome).bind
      intro sequence trace' h'
      exact ⟨h'.1, h'.2, (count_eq _).2.2⟩
    next hnone =>
      refine ⟨?_, h.blames.chunk, rfl⟩
      apply h.accounts.dropped (Option.some_ne_none pid)
      omega
  . intro progress' trace' h'
    obtain ⟨haccounts, hblames, hforced⟩ := h'
    rw [← hforced] at hblames
    split
    next hexcess =>
      rw [if_pos hexcess] at hblames
      exact ⟨haccounts, hblames⟩
    next hexcess =>
      rw [if_neg hexcess] at hblames
      exact ⟨haccounts, hblames⟩

end

end Chunk

variable {pid sequence rounds : Nat}

theorem keeps_receive (hmax : limits.maxOutputBytes ≤ maxRuntimeOutputBytes)
    (h : Invariant limits (some pid) trace progress) :
    watch.Keeps trace (receive spec limits progress)
      (flip (Invariant limits (some pid))) := by
  unfold receive
  refine keeps_perform_bind ?_ rfl
  intro r
  match r with
  | .chunk stream bytes => exact keeps_receiveChunk hmax h
  | .eof stream => exact (h.silent rfl).setEof stream
  | .error stream error =>
    exact ((h.note error).force rfl (by simp)).setEof stream
  | .timeout => exact h.silent rfl
  | .disconnected => exact (h.silent rfl).congr rfl rfl rfl rfl

theorem keeps_graceExpired (h : Invariant limits started trace progress) :
    watch.Keeps trace (graceExpired progress) (fun expired trace =>
      Invariant limits started trace
        (if expired then
          (progress.note "output_pipes_remained_open_after_leader_exit").fail
        else progress)) := by
  unfold graceExpired
  split
  . constructor
    . intro event heq
      cases heq
    . intro expired
      cases expired with
      | true => exact (h.note _).fail rfl
      | false => exact h.silent rfl
  . exact h

theorem keeps_round (hmax : limits.maxOutputBytes ≤ maxRuntimeOutputBytes)
    (h : Invariant limits (some pid) trace progress) :
    watch.Keeps trace (round spec limits progress) (fun
      | .inl progress => fun trace => Invariant limits (some pid) trace progress
      | .inr progress => fun trace => Invariant limits (some pid) trace progress) := by
  unfold round
  apply (keeps_observeExit h).bind
  intro progress trace h
  apply (keeps_observeStop h).bind
  intro progress trace h
  apply (keeps_terminateForced h).bind
  intro progress trace h
  split
  . exact h
  . apply (keeps_graceExpired h).bind
    intro expired trace h
    cases expired with
    | true => exact h
    | false =>
      rw [if_neg Bool.false_ne_true, Monitor.keeps_bind]
      exact keeps_receive hmax h

structure Settled (limits : MechanicalLimits) (started : Option Nat) (trace : Trace)
    (progress : Progress) : Prop where
  invariant : Invariant limits started trace progress
  status : progress.childStatus = none → progress.forcedKind.isSome

section

variable (h : Settled limits started trace progress)
include h

theorem keeps_retireReader :
    watch.Keeps trace (retireReader progress stdio) (flip (Settled limits started)) := by
  unfold retireReader
  refine keeps_perform_bind ?_ rfl
  intro r
  match r with
  | some () => exact ⟨h.invariant.silent rfl, h.status⟩
  | none => exact ⟨(h.invariant.note _).fail rfl, fun _ => rfl⟩

theorem keeps_retireStdinWriter :
    watch.Keeps trace (retireStdinWriter progress) (flip (Settled limits started)) := by
  unfold retireStdinWriter
  refine keeps_perform_bind ?_ rfl
  intro r
  match r with
  | some (some error) => exact ⟨(h.invariant.note error).silent rfl, h.status⟩
  | some none => exact ⟨h.invariant.silent rfl, h.status⟩
  | none => exact ⟨(h.invariant.note _).fail rfl, fun _ => rfl⟩

theorem keeps_retireWorkers :
    watch.Keeps trace (retireWorkers spec progress) (flip (Settled limits started)) := by
  unfold retireWorkers
  apply (keeps_retireReader h).bind
  intro progress trace h
  cases spec.ioMode with
  | pipe =>
    apply (keeps_retireReader h).bind
    intro progress trace h
    exact keeps_retireStdinWriter h
  | pty size => exact keeps_retireStdinWriter h

theorem keeps_finalStatus :
    watch.Keeps trace (finalStatus progress) (flip (Invariant limits started)) := by
  unfold finalStatus
  split
  next hnone =>
    refine keeps_perform_bind ?_ rfl
    intro r
    have hforced := h.status (Option.isNone_iff_eq_none.mp hnone)
    exact (h.invariant.later hforced rfl).setStatus _
  . exact h.invariant

end

theorem keeps_observeCleanup (h : Invariant limits started trace progress) :
    watch.Keeps trace (observeCleanup progress) (flip (Invariant limits started)) := by
  unfold observeCleanup
  split
  . refine keeps_perform_bind ?_ rfl
    intro r
    match r with
    | .ok false => exact h.silent rfl
    | .ok true => exact (h.note _).fail rfl
    | .error error => exact (h.note error).fail rfl
  . exact h

theorem outputTruncated_iff :
    (progress.terminal elapsedMs).outputTruncated = true
      ↔ progress.forcedKind = some .outputLimitExceeded := by
  unfold Progress.terminal Progress.statusKind
  cases progress.forcedKind with
  | some kind => simp
  | none =>
    cases progress.childStatus.bind ExitStatus.signal with
    | some _ | none => simp

theorem keeps_ensureTerminated (h : Invariant limits started trace progress) :
    watch.Keeps trace (ensureTerminated progress) (flip (Settled limits started)) := by
  unfold ensureTerminated
  split
  . apply (keeps_terminateProcessGroup h).mono
    intro progress trace h
    exact ⟨h.1, h.2⟩
  next hsome =>
    refine ⟨h, ?_⟩
    intro hnone
    exact absurd (Option.isNone_iff_eq_none.mpr hnone) hsome

theorem keeps_finish (h : Invariant limits started trace progress) :
    watch.Keeps trace (finish spec progress) (Ended limits) := by
  unfold finish
  apply (keeps_ensureTerminated h).bind
  intro progress trace h
  apply (keeps_retireWorkers h).bind
  intro progress trace h
  apply (keeps_finalStatus h).bind
  intro progress trace h
  apply (keeps_observeCleanup h).bind
  intro progress trace h
  refine keeps_perform_bind ?_ rfl
  intro elapsedMs
  have h' : Invariant limits started (trace ++ [⟨.elapsed, elapsedMs⟩]) progress := h.silent rfl
  apply keeps_terminal h'.accounts
  intro _
  rw [outputTruncated_iff]
  exact h'.blames.exceeded

section

variable (hmax : limits.maxOutputBytes ≤ maxRuntimeOutputBytes) (h : Opened limits none sequence trace)
include hmax h

theorem keeps_superviseChild :
    watch.Keeps trace (superviseChild spec limits rounds sequence pid) (Ended limits) := by
  unfold superviseChild
  refine keeps_perform_bind ?_ rfl
  intro r
  match r with
  | .error error => exact h.keeps_stop rfl
  | .ok () =>
    have h' : Opened limits none sequence (trace ++ [⟨.captureIdentity pid, .ok ()⟩]) := h.silent rfl
    rw [Monitor.keeps_bind]
    have hkeeps := @keeps_emit_accounts limits (some pid)
      (trace ++ [⟨.captureIdentity pid, .ok ()⟩]) spec sequence 0 0 (.started pid) none hmax
    refine (hkeeps ?_ ?_ ?_ ?_ ?_ ?_ ?_).mono ?_
    . exact h'.accounts.seqs
    . exact h'.accounts.sequence
    . rw [h'.accounts.kinds, h'.received]
      exact transcript_started
    . intro hnone
      cases hnone
    . exact h'.accounts.stdout
    . exact h'.accounts.stderr
    . exact h'.blames
    . intro sequence trace' hstarted
      have hopened : Opened limits (some pid) sequence trace' :=
        ⟨hstarted.1, hstarted.2.1, hstarted.2.2.trans h'.received⟩
      refine keeps_perform_bind ?_ rfl
      intro r
      match r with
      | .error error =>
        refine keeps_perform_bind ?_ rfl
        intro cleanup
        cases cleanup with
        | ok _ | error _ => exact (hopened.silent rfl).keeps_stop rfl
      | .ok () =>
        have hready : Opened limits (some pid) sequence
            (trace' ++ [⟨.setupWorkers spec.stdin, .ok ()⟩]) := hopened.silent rfl
        rw [Monitor.keeps_bind]
        apply Monitor.keeps_iterate (I := fun progress trace => Invariant limits (some pid) trace progress)
        . intro progress trace h
          refine (keeps_round hmax h).mono ?_
          intro result trace h
          cases result with
          | inl progress => exact h
          | inr progress => exact keeps_finish h
        . exact ⟨hready.accounts, hready.blames⟩

theorem keeps_launch : watch.Keeps trace (launch spec limits rounds sequence) (Ended limits) := by
  unfold launch
  refine keeps_perform_bind ?_ rfl
  intro cancelled
  cases cancelled with
  | true => exact h.keeps_stop rfl
  | false =>
    have h' : Opened limits none sequence (trace ++ [⟨.cancelled, false⟩]) := h.silent rfl
    refine keeps_perform_bind ?_ rfl
    intro expired
    cases expired with
    | true => exact h'.keeps_stop rfl
    | false =>
      have h'' : Opened limits none sequence
          (trace ++ [⟨.cancelled, false⟩] ++ [⟨.expired, false⟩]) := h'.silent rfl
      refine keeps_perform_bind ?_ rfl
      intro r
      match r with
      | .error error =>
        exact h''.keeps_stop rfl
      | .ok pid => exact keeps_superviseChild hmax (h''.silent rfl)

end

theorem keeps_cloneSlave {stdio : Stdio} {next : Run ExecutionTerminal}
    (hnext : ∀ {trace : Trace}, Opened limits none sequence trace → watch.Keeps trace next (Ended limits))
    {trace : Trace} (h : Opened limits none sequence trace) :
    watch.Keeps trace (cloneSlave spec sequence stdio next) (Ended limits) := by
  unfold cloneSlave
  refine keeps_perform_bind ?_ rfl
  intro r
  match r with
  | .error error => exact h.keeps_stop rfl
  | .ok () => exact hnext (h.silent rfl)

theorem keeps_executeProcess (hmax : limits.maxOutputBytes ≤ maxRuntimeOutputBytes) :
    watch.Keeps [] (executeProcess spec limits rounds) (Ended limits) := by
  unfold executeProcess
  rw [Monitor.keeps_bind]
  have hkeeps := @keeps_emit_accounts limits none [] spec 0 0 0 .accepted none hmax rfl rfl rfl
    (fun _ => rfl) rfl rfl
  refine (hkeeps ?_).mono ?_
  . constructor
    . exact ⟨fun _ => undisturbed_nil, fun _ => rfl⟩
    . constructor
      . intro h
        cases h
      . rintro ⟨before, event, after, heq, _⟩
        simp at heq
  . intro sequence trace h
    have hopened : Opened limits none sequence trace := ⟨h.1, h.2.1, h.2.2⟩
    split
    . exact keeps_stop hopened.accounts hopened.received
    . split
      . exact keeps_launch hmax hopened
      . refine keeps_perform_bind ?_ rfl
        intro r
        match r with
        | .error error => exact hopened.keeps_stop rfl
        | .ok () =>
          apply keeps_cloneSlave
          . apply keeps_cloneSlave
            apply keeps_cloneSlave
            exact keeps_launch hmax
          . exact hopened.silent rfl

end Keeps

end ProcessRuntime
