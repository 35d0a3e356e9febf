import Trillionnium.CallRegistry.Lemmas.Claimed
import Trillionnium.CallRegistry.Lemmas.Spawn
import Trillionnium.ProcessRuntime.Lemmas.Reported
import Trillionnium.ProcessRuntime.Lemmas.Return
import Trillionnium.Text.Digest
import Trillionnium.ToolBridge.Impl.Bridge

/-!
A call whose spawn was granted is closed in the registry when the bridge returns, whatever the runtime,
the sink and the other users of the registry do.
-/

namespace ToolBridge

open CallRegistry (CallKey Entry Registry SpawnClaim TerminalRecord)
open CallRegistry.Registry (Has)
open Concurrent Monitor
open ProcessRuntime (ExecutionEvent ExecutionTerminal Reported)

variable {phase : Phase} {observation : Observation}

/--
How far a call has got: no claim was granted to it, it holds a claim, or it has completed its claim.
A cancellation that fails although the call is in the registry is impossible.
-/
inductive Phase where
  | unclaimed
  | claimed (generation : Nat)
  | closed (generation : Nat)
  | impossible

def Phase.next : Phase → (a : Act) → a.Res → Phase
  | .unclaimed, .claimSpawn _ _, .ok (.granted generation _) => .claimed generation
  | .claimed _, .requestCancel _, .error _ => .impossible
  | .claimed generation, .complete _ _ _, _ => .closed generation
  | phase, _, _ => phase

def Phase.allows (key : CallKey) (phase : Phase) : Act → Prop
  | .claimSpawn key' _ => key' = key ∧ phase = .unclaimed
  | .requestCancel key' => key' = key
  | .complete key' generation terminal =>
    key' = key ∧ phase = .claimed generation
      ∧ CallRegistry.Registry.validateTerminal terminal = .ok ()
  | _ => True

def phases (key : CallKey) : Monitor Act Act.Res Phase where
  allows := Phase.allows key
  next := Phase.next

def Phase.Holds (key : CallKey) : Phase → Registry → Prop
  | .unclaimed, _ => True
  | .claimed generation, registry => registry.Has key (Entry.isClaimed generation)
  | .closed generation, registry => registry.Has key (Entry.isClosed generation)
  | .impossible, _ => False

theorem Phase.holds_step {key : CallKey} (h : phase.Holds key registry)
    (hop : op ≠ .removeTerminal key) : phase.Holds key (registry.step op).1 := by
  cases phase with
  | unclaimed => trivial
  | claimed generation => exact CallRegistry.Registry.has_isClaimed_step hop h
  | closed generation => exact CallRegistry.Registry.has_isClosed_step hop h
  | impossible => exact h

section Guards

variable {key : CallKey} {phase : Phase} {registry registry' : Registry}

theorem guards_claimSpawn {requestSha256 : String}
    (hallows : phase.allows key (.claimSpawn key requestSha256))
    (hexec : registry.step (.claimSpawn key requestSha256) = (registry', .claimed r)) :
    (phase.next (.claimSpawn key requestSha256) r).Holds key registry' := by
  obtain ⟨_, rfl⟩ := hallows
  match r with
  | .ok (.granted generation snapshot) =>
    have hgrants : CallRegistry.Grants key generation (.claimSpawn key requestSha256)
        (registry.step (.claimSpawn key requestSha256)).2 := by
      rw [hexec]
      exact ⟨⟨requestSha256, rfl⟩, snapshot, rfl⟩
    have hclaimed := CallRegistry.Registry.has_isClaimed_of_grants hgrants
    rw [hexec] at hclaimed
    exact hclaimed
  | .ok (.existing _) => trivial
  | .ok (.inhibited _) => trivial
  | .error _ => trivial

theorem guards_requestCancel (h : phase.Holds key registry)
    (hexec : registry.step (.requestCancel key) = (registry', .observed r)) :
    (phase.next (.requestCancel key) r).Holds key registry' := by
  have hsame : phase.Holds key registry' := by
    have hstep : phase.Holds key (registry.step (.requestCancel key)).1 := by
      apply Phase.holds_step h
      intro heq
      cases heq
    rw [hexec] at hstep
    exact hstep
  cases phase with
  | claimed generation =>
    cases r with
    | ok snapshot => exact hsame
    | error error =>
      have hne := CallRegistry.Registry.step_requestCancel_ne_error h error
      rw [hexec] at hne
      exact absurd rfl hne
  | _ => exact hsame

theorem guards_complete {terminal : TerminalRecord}
    (hallows : phase.allows key (.complete key generation terminal)) (h : phase.Holds key registry)
    (hexec : registry.step (.complete key generation terminal) = (registry', .mutated r)) :
    (phase.next (.complete key generation terminal) r).Holds key registry' := by
  obtain ⟨_, rfl, hterminal⟩ := hallows
  have hclosed := CallRegistry.Registry.has_isClosed_complete h hterminal
  rw [hexec] at hclosed
  exact hclosed

theorem guards_other (h : phase.Holds key registry) (hexec : registry.step op = (registry', out))
    (hop : ∀ key', op ≠ .removeTerminal key') : phase.Holds key registry' := by
  have hstep := Phase.holds_step h (hop key)
  rw [hexec] at hstep
  exact hstep

end Guards

theorem guards (key : CallKey) : (world key).Guards (phases key) (Phase.Holds key) := by
  constructor
  . intro phase registry a r registry' h hallows hexec
    have hother : ∀ {op : CallRegistry.Op} {out : CallRegistry.Answer},
        registry.step op = (registry', out) → (∀ key', op ≠ .removeTerminal key')
        → phase.next a r = phase → ((phases key).next phase a r).Holds key registry' := by
      intro op out hstep hop hnext
      change (phase.next a r).Holds key registry'
      rw [hnext]
      exact guards_other h hstep hop
    cases a with
    | claimSpawn key' requestSha256 =>
      obtain ⟨rfl, _⟩ := id hallows
      exact guards_claimSpawn hallows hexec
    | requestCancel key' =>
      cases hallows
      exact guards_requestCancel h hexec
    | complete key' generation terminal =>
      obtain ⟨rfl, _⟩ := id hallows
      exact guards_complete hallows h hexec
    | begin _ _ | rollbackAccept _ _ | inhibitSpawn _ | recordPid _ _ _ | snapshot _ =>
      apply hother hexec
      . intro key'' heq
        cases heq
      . cases phase <;> rfl
    | signal _ | externalFlag | sink _ | os _ =>
      rw [hexec.1]
      cases phase <;> exact h
  . rintro phase registry registry' h ⟨op, hop, rfl⟩
    exact Phase.holds_step h hop

section Keeps

variable {call : BoundToolCall} {limits : BridgeLimits} {rounds generation : Nat}

theorem keeps_notifySink :
    (phases call.key).Keeps phase (notifySink event observation) (fun _ phase' => phase' = phase) := by
  unfold notifySink
  split
  . rfl
  . refine ⟨trivial, ?_⟩
    intro r
    match r with
    | .ok () => cases phase <;> rfl
    | .error failure => cases phase <;> rfl

theorem keeps_observe :
    (phases call.key).Keeps phase (observe call generation event observation)
      (fun _ phase' => phase' = phase) := by
  unfold observe
  split
  . rfl
  . rw [keeps_bind]
    unfold recordStarted
    split
    . refine ⟨trivial, ?_⟩
      intro r
      have hnext : (phases call.key).next phase _ r = phase := by
        cases phase <;> rfl
      rw [hnext]
      match r with
      | .error error => exact keeps_notifySink
      | .ok _ => exact keeps_notifySink
    . exact keeps_notifySink

theorem keeps_isCancelled :
    (phases call.key).Keeps phase (isCancelled call observation) (fun _ phase' => phase' = phase) := by
  unfold isCancelled
  split
  . rfl
  . refine ⟨trivial, ?_⟩
    intro signalled
    have hnext : (phases call.key).next phase _ signalled = phase := by
      cases phase <;> rfl
    rw [hnext]
    cases signalled with
    | true => rfl
    | false =>
      refine ⟨trivial, ?_⟩
      intro flagged
      cases phase <;> rfl

theorem keeps_handleRuntime :
    (phases call.key).Keeps phase (handleRuntime call generation a observation)
      (fun _ phase' => phase' = phase) := by
  have hos : ∀ a : ProcessRuntime.Act, (phases call.key).Keeps phase (do
      let r ← perform (.os a)
      return (r, observation)) (fun _ phase' => phase' = phase) := by
    intro a
    refine ⟨trivial, ?_⟩
    intro r
    cases phase <;> rfl
  cases a with
  | emit event =>
    unfold handleRuntime
    rw [keeps_bind]
    exact keeps_observe
  | cancelled =>
    unfold handleRuntime
    rw [keeps_bind]
    exact keeps_isCancelled
  | _ => exact hos _

theorem reports_executeRuntime : ProcessRuntime.ReportsResult (executeRuntime call limits rounds) := by
  unfold executeRuntime
  split
  . exact ProcessRuntime.reports_executeValidated ProcessRuntime.reports_executeSpec
  . exact ProcessRuntime.reports_executeValidated ProcessRuntime.reports_executeSpec
  . exact ProcessRuntime.reports_executeValidated ProcessRuntime.reports_executeSpec
  . exact ProcessRuntime.reports_executeValidated ProcessRuntime.reports_executeSpec

theorem isText_asStr (kind : ProcessRuntime.TerminalKind) : Text.isText kind.asStr 128 false = true := by
  cases kind <;> decide

theorem terminalRecord_finish {terminal : ExecutionTerminal} (h : Reported terminal)
    (digest : ObservationDigest) :
    ∃ record, terminalRecord terminal digest.finish = .ok record
      ∧ CallRegistry.Registry.validateTerminal record = .ok () := by
  have hsha256 : Text.isSha256 digest.finish = true := Text.isSha256_hex
  obtain ⟨status, hcode, hsignal⟩ := h
  refine ⟨⟨terminal.kind.asStr, terminal.exitCode, terminal.signal, digest.finish,
    terminal.stdoutBytes, terminal.stderrBytes⟩, ?_, ?_⟩
  . unfold terminalRecord requireSha256
    rw [hsha256]
    rfl
  . unfold CallRegistry.Registry.validateTerminal CallRegistry.requireText CallRegistry.requireSha256
    simp only [isText_asStr, hsha256, if_true, Except.ok_bind, hcode, hsignal]
    match status with
    | none => rfl
    | some (.exited code) => rfl
    | some (.signaled signal hrange) =>
      have hbound : signal ≤ 128 := by omega
      simp [ProcessRuntime.ExitStatus.code, ProcessRuntime.ExitStatus.signal, hrange.1, hbound]

theorem keeps_settleRuntime {result : ProcessRuntime.Result ExecutionTerminal}
    (h : ∀ terminal, result = .ok terminal → Reported terminal) :
    (phases call.key).Keeps phase (settleRuntime call generation result observation)
      (fun settled phase' => Reported settled.1 ∧ phase' = phase) := by
  unfold settleRuntime
  split
  . exact ⟨h _ rfl, rfl⟩
  . rw [keeps_bind]
    unfold emitSyntheticTerminal
    apply keeps_observe.bind
    rintro observation phase' rfl
    apply keeps_observe.mono
    rintro observation phase' rfl
    exact ⟨⟨none, rfl, rfl⟩, rfl⟩

def Phase.isSettled : Phase → Prop
  | .claimed _ => False
  | _ => True

theorem keeps_publishCancel_unclaimed :
    (phases call.key).Keeps .unclaimed (publishCancel call observed)
      (fun _ phase => phase = .unclaimed) := by
  unfold publishCancel
  split
  . exact ⟨rfl, fun _ => rfl⟩
  . rfl

theorem keeps_publishCancel :
    (phases call.key).Keeps (.claimed generation) (publishCancel call observed)
      (fun published phase => match published with
        | .ok () => phase = .claimed generation
        | .error _ => phase = .impossible) := by
  unfold publishCancel
  split
  . refine ⟨rfl, ?_⟩
    intro r
    cases r with
    | ok _ | error _ => rfl
  . rfl

theorem keeps_orFail {α β : Type} {result : CallRegistry.Result α} {next : α → Run (Result β)}
    {Q : Result β → Phase → Prop} (herror : ∀ error, Q (.error error) phase)
    (hok : ∀ x, result = .ok x → (phases call.key).Keeps phase (next x) Q) :
    (phases call.key).Keeps phase (orFail result next) Q := by
  cases result with
  | error error => exact herror _
  | ok x => exact hok x rfl

theorem keeps_completeCall {terminal : ExecutionTerminal} (h : Reported terminal) :
    (phases call.key).Keeps (.claimed generation)
      (completeCall call generation terminal runtimeRejection observation)
      (fun _ phase => phase.isSettled) := by
  unfold completeCall
  apply keeps_isCancelled.bind
  rintro cancelled phase rfl
  dsimp only
  apply keeps_publishCancel.bind
  intro published phase hphase
  match published with
  | .error error =>
    rw [hphase]
    trivial
  | .ok () =>
    rw [hphase]
    unfold orFail
    dsimp only
    have hfinish := terminalRecord_finish h observation.digest
    generalize observation.digest.finish = observationSha256 at hfinish ⊢
    obtain ⟨record, hrecord⟩ := hfinish
    rw [hrecord.1]
    dsimp only
    rw [keeps_perform_bind]
    refine ⟨⟨rfl, rfl, hrecord.2⟩, ?_⟩
    intro completed
    apply keeps_orFail
    . intro error
      trivial
    . intro _ _
      rw [keeps_perform_bind]
      refine ⟨trivial, ?_⟩
      intro snapshot
      apply keeps_orFail
      . intro error
        trivial
      . intro snapshot _
        split
        . trivial
        . trivial

theorem keeps_executeGranted :
    (phases call.key).Keeps (.claimed generation) (executeGranted call limits rounds generation)
      (fun _ phase => phase.isSettled) := by
  unfold executeGranted
  rw [keeps_perform_bind]
  refine ⟨trivial, ?_⟩
  intro flagged
  apply keeps_publishCancel.bind
  intro published phase hphase
  match published with
  | .error error =>
    rw [hphase]
    trivial
  | .ok () =>
    rw [hphase]
    unfold orFail
    dsimp only
    rw [keeps_bind]
    -- The execution of the runtime leaves the claim alone.
    refine (keeps_handle (R := fun _ _ phase => phase = Phase.claimed generation) ?_
      reports_executeRuntime rfl).mono ?_
    . rintro a _ observation phase _ rfl
      exact keeps_handleRuntime
    . rintro ⟨result, observation⟩ phase ⟨_, hreported, rfl⟩
      dsimp only
      apply (keeps_settleRuntime hreported).bind
      rintro ⟨terminal, rejection, observation⟩ phase ⟨hterminal, rfl⟩
      exact keeps_completeCall hterminal

theorem keeps_abandonClaim {error : CallRegistry.RegistryError} :
    (phases call.key).Keeps .unclaimed (abandonClaim call beganNew error)
      (fun _ phase => phase.isSettled) := by
  unfold abandonClaim
  split
  . refine ⟨trivial, ?_⟩
    intro rollback
    cases rollback with
    | ok _ => trivial
    | error _ => exact ⟨trivial, fun _ => trivial⟩
  . exact ⟨trivial, fun _ => trivial⟩

theorem keeps_claimCall :
    (phases call.key).Keeps .unclaimed (claimCall call limits rounds beganNew)
      (fun _ phase => phase.isSettled) := by
  refine ⟨⟨rfl, rfl⟩, ?_⟩
  intro claim
  match claim with
  | .error error => exact keeps_abandonClaim
  | .ok (.granted generation _) => exact keeps_executeGranted
  | .ok (.existing _) => trivial
  | .ok (.inhibited _) => trivial

theorem keeps_executeFallibleWithDeadline :
    (phases call.key).Keeps .unclaimed (executeFallibleWithDeadline call limits rounds)
      (fun _ phase => phase.isSettled) := by
  unfold executeFallibleWithDeadline
  split
  . trivial
  . rw [keeps_perform_bind]
    refine ⟨trivial, ?_⟩
    intro begun
    apply keeps_orFail
    . intro error
      trivial
    . intro begun _
      rw [keeps_perform_bind]
      refine ⟨trivial, ?_⟩
      intro flagged
      apply keeps_publishCancel_unclaimed.bind
      rintro published phase rfl
      apply keeps_orFail
      . intro error
        trivial
      . intro _ _
        exact keeps_claimCall

end Keeps

section Granted

variable {key : CallKey} {generation : Nat}

def Phase.isGranted (generation : Nat) : Phase → Prop
  | .unclaimed => False
  | .claimed generation' => generation' = generation
  | .closed generation' => generation' = generation
  | .impossible => True

theorem Phase.isGranted_next (h : phase.isGranted generation) {a : Act} {r : a.Res} :
    (phase.next a r).isGranted generation := by
  cases phase with
  | unclaimed => exact h.elim
  | claimed generation' =>
    cases a with
    | requestCancel key =>
      cases r with
      | ok snapshot => exact h
      | error error => trivial
    | _ => exact h
  | closed generation' => exact h
  | impossible => trivial

theorem Phase.isGranted_after (h : phase.isGranted generation) (trace : Prog.Trace Act Act.Res) :
    ((phases key).after phase trace).isGranted generation := by
  induction trace generalizing phase with
  | nil => exact h
  | cons event trace ih =>
    apply ih
    exact Phase.isGranted_next h

theorem isGranted_of_mem {α : Type} {p q : Run α} {Q : α → Phase → Prop}
    {trace : Prog.Trace Act Act.Res} (hkeeps : (phases key).Keeps phase p Q)
    (hsteps : p.Steps trace q) {requestSha256 : String} {snapshot : CallRegistry.CallSnapshot}
    (hmem : ⟨.claimSpawn key requestSha256, .ok (.granted generation snapshot)⟩ ∈ trace) :
    ((phases key).after phase trace).isGranted generation := by
  induction hsteps generalizing phase with
  | refl p => cases hmem
  | act _ ih =>
    cases hmem with
    | head _ =>
      obtain ⟨⟨_, rfl⟩, _⟩ := hkeeps
      have hclaimed : (Phase.claimed generation).isGranted generation := rfl
      exact Phase.isGranted_after hclaimed _
    | tail _ hmem => exact ih (hkeeps.2 _) hmem

end Granted

section Sample

open CallRegistry.Registry (emptyRegistry sampleKey sampleSha256)

def serve (registry : Registry) : (a : Act) → Option (a.Res × Registry)
  | .begin key request =>
    match registry.step (.begin key request) with
    | (registry, .begun r) => some (r, registry)
    | _ => none
  | .claimSpawn key requestSha256 =>
    match registry.step (.claimSpawn key requestSha256) with
    | (registry, .claimed r) => some (r, registry)
    | _ => none
  | .complete key generation terminal =>
    match registry.step (.complete key generation terminal) with
    | (registry, .mutated r) => some (r, registry)
    | _ => none
  | .snapshot key => some (registry.snapshot key, registry)
  | .signal key => some ((registry.get? key).any Entry.cancellation, registry)
  | .externalFlag => some (false, registry)
  | .sink _ => some (.ok (), registry)
  | _ => none

theorem exec_of_serve (registry : Registry) (a : Act) (r : a.Res) (registry' : Registry)
    (h : serve registry a = some (r, registry')) : (world key).exec registry a r registry' := by
  unfold serve at h
  split at h
  case h_5 key =>
    cases h
    refine ⟨rfl, ?_⟩
    intro entry hentry
    rw [hentry]
    rfl
  case h_1 | h_2 | h_3 =>
    split at h
    next heq =>
      cases h
      exact heq
    next => cases h
  all_goals cases h
  . rfl
  . exact ⟨rfl, trivial⟩
  . exact ⟨rfl, trivial⟩

def grants (generation : Nat) (entry : Sigma Act.Res) : Bool :=
  match entry with
  | ⟨.claimSpawn key _, .ok (.granted generation' _)⟩ => key == sampleKey && generation' == generation
  | _ => false

def sampleCall : BoundToolCall where
  key := sampleKey
  bindingFingerprint := sampleSha256
  targetId := none
  canonicalRequest := []
  requestSha256 := sampleSha256
  request := .shell {
    callId := "call-1"
    targetId := none
    invocation := .argv ["true"]
    shellExecutable := []
    cwd := none
    env := ∅
    stdin := []
    timeout := some (ProcessRuntime.fromSecs 90000)
  }
  pty := none

theorem drive_sampleCall : ∃ r ∈ World.drive serve
    (executeFallibleWithDeadline sampleCall .default 0) emptyRegistry, r.2.1.any (grants 1) := by
  decide +kernel

theorem executeFallibleWithDeadline_closes {call : BoundToolCall} {limits : BridgeLimits}
    {rounds generation : Nat} {registry registry' : Registry} {trace : Prog.Trace Act Act.Res}
    {result : Result DispatchResult} {requestSha256 : String} {snapshot : CallRegistry.CallSnapshot}
    (hrun : (world call.key).Interleaves registry (executeFallibleWithDeadline call limits rounds)
      trace registry' (.pure result))
    (hgranted : ⟨.claimSpawn call.key requestSha256, .ok (.granted generation snapshot)⟩ ∈ trace) :
    registry'.Has call.key (Entry.isClosed generation) := by
  obtain ⟨hsettled, hholds⟩ :=
    (guards call.key).returned hrun keeps_executeFallibleWithDeadline trivial
  have hphase := isGranted_of_mem keeps_executeFallibleWithDeadline hrun.steps hgranted
  generalize (phases call.key).after .unclaimed trace = phase at hsettled hholds hphase
  cases phase with
  | unclaimed => exact hphase.elim
  | claimed generation' => exact hsettled.elim
  | closed generation' =>
    cases hphase
    exact hholds
  | impossible => exact hholds.elim

theorem executeFallibleWithDeadline_closes_sampleCall : ∃ trace registry' result,
    (world sampleKey).Interleaves emptyRegistry (executeFallibleWithDeadline sampleCall .default 0)
      trace registry' (.pure result)
      ∧ registry'.Has sampleKey (Entry.isClosed 1) := by
  obtain ⟨⟨result, trace, registry'⟩, hdrive, hgrants⟩ := drive_sampleCall
  have hrun : (world sampleKey).Interleaves emptyRegistry (executeFallibleWithDeadline sampleCall
      .default 0) trace registry' (.pure result) := World.interleaves_drive exec_of_serve hdrive
  obtain ⟨entry, hmem, hgrants⟩ := List.any_eq_true.mp hgrants
  unfold grants at hgrants
  split at hgrants
  next key requestSha256 generation snapshot =>
    rw [Bool.and_eq_true, beq_iff_eq, beq_iff_eq] at hgrants
    obtain ⟨rfl, rfl⟩ := hgrants
    have hclosed : registry'.Has sampleCall.key (Entry.isClosed 1) :=
      executeFallibleWithDeadline_closes hrun hmem
    exact ⟨trace, registry', result, hrun, hclosed⟩
  next => cases hgrants

end Sample

end ToolBridge
