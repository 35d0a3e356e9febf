import Trillionnium.JobRuntime.Lemmas.Commit
import Trillionnium.JobRuntime.Lemmas.Recover

/-!
The live journal against the log of its store: recovery of the log gives the live views, up to the
records whose calls are still on their way.
-/

namespace JobRuntime

open EventStore Json JobRegistry

def Pending.entry (pending : Pending) : Entry := .ofCall pending.call pending.stage

namespace Journal

def Written (state : JournalState) (recovered : Recovering) (pending : Pending) : Prop :=
  match pending.appended with
  | none => recovered.view pending.call.key = (state.view pending.call.key).bare
  | some (.ok ()) =>
    recovered.view pending.call.key = (pending.entry.apply (state.view pending.call.key)).bare
  | some (.error _) => True

structure Ready (codec : FloatCodec) (state : JournalState) (recovered : Recovering)
    (lane : Fin journalShardCount) (pending : Pending) : Prop where
  lane : pending.call.lane = lane
  input : pending.input = pending.entry.input codec
  mode : pending.mode = pending.entry.mode
  allowed : pending.entry.Allowed (state.view pending.call.key)
  written : Written state recovered pending

structure Sound (codec : FloatCodec) (journal : Journal) (recovered : Recovering) : Prop where
  recovers : recover journal.log = .ok recovered
  synced : journal.synced ≤ journal.log.length
  started : ∀ key, (journal.state.view key).Started
  ready : ∀ lane pending, journal.lanes lane = some pending
    → Ready codec journal.state recovered lane pending
  idle : journal.state.store = true → ∀ key,
    (∀ pending, journal.lanes (stableJournalShardIndex key) = some pending → pending.call.key ≠ key)
    → recovered.view key = (journal.state.view key).bare

inductive Transition (codec : FloatCodec) (journal : Journal) : Op → Journal → Answer → Prop
  | unchanged {op : Op} {out : Answer} (hout : ∀ call, out ≠ .answered call (.ok (.began .new))) :
    Transition codec journal op journal out
  | entered {call : Call} {state : JournalState} {result : Result Reply}
    (hlane : journal.lanes call.lane = none)
    (h : journal.state.Answers call.key state result) :
    Transition codec journal (.call call)
      { journal with state, lanes := journal.setLane call.lane none } (.answered call result)
  | asked {call : Call} {input : EventInput} {mode : AppendMode}
    (hlane : journal.lanes call.lane = none)
    (h : journal.state.Asks codec call .first input mode) :
    Transition codec journal (.call call)
      { journal with
        lanes := journal.setLane call.lane (some ⟨call, .first, input, mode, none⟩) } .waiting
  | stored {lane : Fin journalShardCount} {answer : StoreAnswer} {call : Call} {stage : Stage}
    {input : EventInput} {mode : AppendMode}
    (hlane : journal.lanes lane = some ⟨call, stage, input, mode, none⟩) :
    Transition codec journal (.append lane answer) (journal.storeAnswers lane answer).1 .waiting
  | committed {lane : Fin journalShardCount} {pending : Pending} {appended : Except String Unit}
    {state : JournalState} {result : Result Reply}
    (hlane : journal.lanes lane = some pending) (happended : pending.appended = some appended)
    (h : journal.state.Commits codec pending.call pending.stage appended (state, .answered result)) :
    Transition codec journal (.commit lane) { journal with state, lanes := journal.setLane lane none }
      (.answered pending.call result)
  | continued {lane : Fin journalShardCount} {pending : Pending} {appended : Except String Unit}
    {state : JournalState} {stage : Stage} {input : EventInput} {mode : AppendMode}
    (hlane : journal.lanes lane = some pending) (happended : pending.appended = some appended)
    (h : journal.state.Commits codec pending.call pending.stage appended
      (state, .append stage input mode)) :
    Transition codec journal (.commit lane)
      { journal with
        state
        lanes := journal.setLane lane (some ⟨pending.call, stage, input, mode, none⟩) } .waiting
  | restarted (kept : Nat) {out : JournalStatus} :
    Transition codec journal (.restart kept)
      (openStore (journal.log.take (max kept journal.synced)) journal.synced) (.opened out)
  | openFailed (error : String) {out : JournalStatus} :
    Transition codec journal (.openFailed error)
      { journal with state := .unavailable error, lanes := fun _ => none } (.opened out)

variable {codec : FloatCodec} {journal : Journal} {recovered : Recovering}

@[simp]
theorem setLane_self (journal : Journal) (lane : Fin journalShardCount)
    (pending : Option Pending) : journal.setLane lane pending lane = pending := by
  apply Function.update_self

theorem setLane_of_ne (journal : Journal) {lane lane' : Fin journalShardCount}
    (pending : Option Pending) (h : lane' ≠ lane) :
    journal.setLane lane pending lane' = journal.lanes lane' := by
  apply Function.update_of_ne h

theorem transition_startCall {journal : Journal} :
    Transition codec journal (.call call) (journal.startCall codec call).1
      (journal.startCall codec call).2 := by
  unfold startCall
  split
  . exact .unchanged nofun
  . split
    . exact .unchanged nofun
    next hlane =>
      have henters := JournalState.enters_enter codec journal.state call
      rcases hphase : journal.state.enter codec call with ⟨state, phase⟩
      rw [hphase] at henters
      cases phase with
      | answered result => exact .entered hlane henters
      | append stage input mode =>
        obtain ⟨rfl, rfl, hasks⟩ := henters
        exact .asked hlane hasks

theorem transition_commitLane (hsound : journal.Sound codec recovered)
    (lane : Fin journalShardCount) :
    Transition codec journal (.commit lane) (journal.commitLane codec lane).1
      (journal.commitLane codec lane).2 := by
  unfold commitLane
  split
  next call stage input mode appended hlane =>
    have hready := hsound.ready lane _ hlane
    have hcommits : journal.state.Commits codec call stage appended
        (journal.state.commit codec call stage appended) :=
      JournalState.commits_commit hready.allowed (hsound.started _)
    have hcall : call.lane = lane := hready.lane
    rcases hphase : journal.state.commit codec call stage appended with ⟨state, phase⟩
    rw [hphase] at hcommits
    cases phase with
    | answered result =>
      simp only [proceed, hcall]
      exact .committed hlane rfl hcommits
    | append stage' input' mode' =>
      simp only [proceed, hcall]
      exact .continued hlane rfl hcommits
  . exact .unchanged nofun

theorem transition (hsound : journal.Sound codec recovered) (op : Op) :
    Transition codec journal op (journal.step codec op).1 (journal.step codec op).2 := by
  cases op with
  | call call => apply transition_startCall
  | append lane answer =>
    simp only [step]
    cases hlane : journal.lanes lane with
    | none =>
      simp only [storeAnswers, hlane]
      exact .unchanged nofun
    | some pending =>
      obtain ⟨call, stage, input, mode, appended⟩ := pending
      cases appended with
      | some appended =>
        simp only [storeAnswers, hlane]
        exact .unchanged nofun
      | none =>
        have hout : (journal.storeAnswers lane answer).2 = .waiting := by
          simp only [storeAnswers, hlane]
        rw [hout]
        exact .stored hlane
  | commit lane => exact transition_commitLane hsound lane
  | recoveredJob key =>
    simp only [step]
    split
    . exact .unchanged nofun
    . exact .unchanged nofun
  | restart kept => exact .restarted kept
  | openFailed error => exact .openFailed error

theorem sound_openStore {log : EventLog} {synced : Nat} (hrecover : recover log = .ok recovered)
    (hsynced : synced ≤ log.length) : (openStore log synced).Sound codec recovered := by
  have hstate : (openStore log synced).state
      = ⟨true, true, none, recovered.operations, recovered.jobs⟩ := by
    unfold openStore JournalState.openStore
    rw [hrecover]
  have hview : ∀ key, (openStore log synced).state.view key = recovered.view key := by
    intro key
    rw [hstate]
    rfl
  have hbound := recover_bound hrecover
  constructor
  case recovers => exact hrecover
  case synced => exact hsynced
  case started =>
    intro key
    rw [hview]
    apply hbound.started
  case ready =>
    intro lane pending h
    cases h
  case idle =>
    intro _ key _
    rw [hview]
    exact (hbound.bare key).symm

variable {pending : Pending} {state : JournalState}

theorem Sound.key_ne (hsound : journal.Sound codec recovered) {lane lane' : Fin journalShardCount}
    (hlane : journal.lanes lane' = some pending) {key : JobKey}
    (hkey : stableJournalShardIndex key = lane) (hne : lane' ≠ lane) : pending.call.key ≠ key := by
  intro heq
  apply hne
  rw [← (hsound.ready lane' pending hlane).lane, ← hkey, ← heq]
  rfl

theorem Ready.of_view_eq {state' : JournalState} {recovered' : Recovering}
    {lane : Fin journalShardCount} (h : Ready codec state recovered lane pending)
    (hview : state'.view pending.call.key = state.view pending.call.key)
    (hrecovered : recovered'.view pending.call.key = recovered.view pending.call.key) :
    Ready codec state' recovered' lane pending where
  lane := h.lane
  input := h.input
  mode := h.mode
  allowed := by
    rw [hview]
    exact h.allowed
  written := by
    have hwritten := h.written
    unfold Written at hwritten ⊢
    rw [hview, hrecovered]
    exact hwritten

theorem Ready.view_eq {lane : Fin journalShardCount} {appended : Except String Unit}
    {result : JournalState × Phase} (hready : Ready codec state recovered lane pending)
    (happended : pending.appended = some appended)
    (h : state.Commits codec pending.call pending.stage appended result)
    (hstore : result.1.store = true) :
    recovered.view pending.call.key = (result.1.view pending.call.key).bare := by
  cases appended with
  | error error =>
    rw [h.touches.store, Bool.and_eq_true] at hstore
    exact absurd hstore.2 Bool.false_ne_true
  | ok _ =>
    have hwritten := hready.written
    simp only [Written, happended] at hwritten
    rw [h.applied rfl (h.touches.live hstore)]
    exact hwritten

theorem Sound.setLane (hsound : journal.Sound codec recovered) {lane : Fin journalShardCount}
    {key : JobKey} {pending : Option Pending} (hkey : stableJournalShardIndex key = lane)
    (htouches : journal.state.Touches key keep state)
    (hcalls : ∀ old, journal.lanes lane = some old → old.call.key = key)
    (hpending : match pending with
      | none => state.store = true → recovered.view key = (state.view key).bare
      | some new => Ready codec state recovered lane new ∧ new.call.key = key) :
    Sound codec { journal with state, lanes := journal.setLane lane pending } recovered where
  recovers := hsound.recovers
  synced := hsound.synced
  started := by
    intro key'
    by_cases heq : key' = key
    . rw [heq]
      exact htouches.started (hsound.started _)
    . change (state.view key').Started
      rw [htouches.others key' heq]
      apply hsound.started
  ready := by
    intro lane' pending' hpending'
    by_cases hlane : lane' = lane
    . rw [hlane] at hpending' ⊢
      cases (journal.setLane_self lane pending).symm.trans hpending'
      exact hpending.1
    . have hold : journal.lanes lane' = some pending' := by
        rw [← hpending']
        exact (journal.setLane_of_ne pending hlane).symm
      apply (hsound.ready lane' pending' hold).of_view_eq _ rfl
      exact htouches.others _ (hsound.key_ne hold hkey hlane)
  idle := by
    intro hstore key' hfree
    by_cases heq : key' = key
    . rw [heq]
      cases pending with
      | none => exact hpending hstore
      | some new =>
        exfalso
        apply hfree new _ (hpending.2.trans heq.symm)
        rw [heq, hkey]
        apply setLane_self
    . change recovered.view key' = (state.view key').bare
      rw [htouches.others key' heq]
      apply hsound.idle (htouches.live hstore)
      intro old hold
      by_cases hlane : stableJournalShardIndex key' = lane
      . rw [hlane] at hold
        rw [hcalls old hold]
        exact fun h => heq h.symm
      . apply hfree
        rw [← hold]
        exact journal.setLane_of_ne pending hlane

theorem Sound.stored (hsound : journal.Sound codec recovered) {lane : Fin journalShardCount}
    (hlane : journal.lanes lane = some ⟨call, stage, input, mode, none⟩) (answer : StoreAnswer) :
    ∃ recovered', Sound codec (journal.storeAnswers lane answer).1 recovered' := by
  have hready := hsound.ready lane _ hlane
  have hview : recovered.view call.key = (journal.state.view call.key).bare := hready.written
  have hallowed : (Entry.ofCall call stage).Allowed (recovered.view (Entry.ofCall call stage).key) := by
    rw [Entry.key_ofCall, hview]
    exact hready.allowed.bare
  obtain ⟨recovered', hrecovers, hothers, happlied⟩ :=
    exists_recover_append hsound.recovers hallowed
  have hinput : input = (Entry.ofCall call stage).input codec := hready.input
  rw [← hinput] at hrecovers happlied
  rw [Entry.key_ofCall] at hothers happlied
  have hgrows := EventLog.prefix_append journal.log input answer
  refine ⟨recovered', ?_⟩
  simp only [storeAnswers, hlane]
  constructor
  case recovers => exact hrecovers
  case synced =>
    dsimp only
    split
    . apply Nat.le_refl
    . exact Nat.le_trans hsound.synced hgrows.length_le
  case started => exact hsound.started
  case ready =>
    intro lane' pending' hpending'
    by_cases heq : lane' = lane
    . rw [heq] at hpending' ⊢
      cases (journal.setLane_self lane _).symm.trans hpending'
      refine ⟨hready.lane, hready.input, hready.mode, hready.allowed, ?_⟩
      unfold Written
      dsimp only
      split
      next h => cases h
      next h =>
        rw [happlied (Option.some.inj h), hview, Entry.apply_bare]
        rfl
      . trivial
    . have hold : journal.lanes lane' = some pending' := by
        rw [← hpending']
        exact (journal.setLane_of_ne _ heq).symm
      apply (hsound.ready lane' pending' hold).of_view_eq rfl
      apply hothers
      exact hsound.key_ne hold hready.lane heq
  case idle =>
    intro hstore key hfree
    have hkey : key ≠ call.key := by
      intro heq
      apply hfree ⟨call, stage, input, mode, some (journal.log.append input answer).1⟩ _ heq.symm
      rw [heq, show stableJournalShardIndex call.key = lane from hready.lane]
      apply setLane_self
    rw [hothers key hkey]
    apply hsound.idle hstore
    intro old hold
    by_cases hsame : stableJournalShardIndex key = lane
    . rw [hsame, hlane] at hold
      cases hold
      exact hkey.symm
    . apply hfree
      rw [← hold]
      exact journal.setLane_of_ne _ hsame

theorem Sound.step (hsound : journal.Sound codec recovered) (op : Op) :
    ∃ recovered', Sound codec (journal.step codec op).1 recovered' := by
  have htransition := transition hsound op
  generalize (journal.step codec op).1 = next at htransition ⊢
  generalize (journal.step codec op).2 = out at htransition
  cases htransition with
  | unchanged hout => exact ⟨recovered, hsound⟩
  | @entered call state result hlane h =>
    refine ⟨recovered, hsound.setLane rfl h.touches ?_ ?_⟩
    . intro old hold
      cases hlane.symm.trans hold
    . intro hstore
      have hlive := h.touches.live hstore
      rw [h.unchanged hlive]
      apply hsound.idle hlive
      intro old hold
      cases hlane.symm.trans hold
  | @asked call input mode hlane h =>
    refine ⟨recovered, hsound.setLane rfl (.refl journal.state call.key) ?_
      ⟨⟨rfl, h.input, h.mode, h.allowed, ?_⟩, rfl⟩⟩
    . intro old hold
      cases hlane.symm.trans hold
    . apply hsound.idle h.store
      intro old hold
      cases hlane.symm.trans hold
  | stored hlane => exact hsound.stored hlane _
  | @committed lane pending appended state result hlane happended h =>
    have hready := hsound.ready lane pending hlane
    refine ⟨recovered, hsound.setLane hready.lane h.touches ?_ (hready.view_eq happended h)⟩
    intro old hold
    cases hlane.symm.trans hold
    rfl
  | @continued lane pending appended state stage input mode hlane happended h =>
    have hready := hsound.ready lane pending hlane
    obtain ⟨_, hasks⟩ := h.asks stage input mode rfl
    refine ⟨recovered, hsound.setLane hready.lane h.touches ?_ ⟨⟨hready.lane, hasks.input, hasks.mode,
      hasks.allowed, hready.view_eq happended h hasks.store⟩, rfl⟩⟩
    intro old hold
    cases hlane.symm.trans hold
    rfl
  | restarted kept =>
    obtain ⟨recovered', hrecovers, _⟩ :=
      exists_recover_of_isPrefix hsound.recovers (List.take_prefix (max kept journal.synced) _)
    refine ⟨recovered', sound_openStore hrecovers ?_⟩
    rw [List.length_take]
    have := hsound.synced
    omega
  | openFailed error =>
    refine ⟨recovered, hsound.recovers, hsound.synced, ?_, ?_, ?_⟩
    . intro key id operation h
      cases h
    . intro lane pending h
      cases h
    . intro h
      cases h

end Journal

end JobRuntime
