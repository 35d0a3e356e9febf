import Trillionnium.EventStore.Reference
import Trillionnium.JobRuntime.Lemmas.Journal

namespace JobRuntime

open EventStore Json JobRegistry Machine

namespace Journal

def Idle (journal : Journal) (key : JobKey) : Prop :=
  ∀ pending, journal.lanes (stableJournalShardIndex key) = some pending → pending.call.key ≠ key

def Stored (journal : Journal) : Prop :=
  ∀ lane pending error, journal.lanes lane = some pending → pending.appended ≠ some (.error error)

variable {codec : FloatCodec} {log : EventLog} {synced : Nat} {ops : List Op}

theorem sound_before (codec : FloatCodec) (ops : List Op)
    (hlog : ∃ recovered, recover log = .ok recovered) (hsynced : synced ≤ log.length) (i : Nat) :
    ∃ recovered, (before (step codec) (openStore log synced) ops i).Sound codec recovered := by
  apply before_invariant (P := fun journal : Journal => ∃ recovered, journal.Sound codec recovered)
  . obtain ⟨recovered, hrecovered⟩ := hlog
    exact ⟨recovered, sound_openStore hrecovered hsynced⟩
  . rintro journal op ⟨recovered, hsound⟩
    exact hsound.step op

theorem store_step {journal : Journal} {recovered : Recovering}
    (hsound : journal.Sound codec recovered) (hstored : journal.Stored) {op : Op}
    (hop : ∀ error, op ≠ .openFailed error) (hstore : journal.state.store = true) :
    (journal.step codec op).1.state.store = true := by
  have htransition := transition hsound op
  generalize (journal.step codec op).1 = next at htransition ⊢
  generalize (journal.step codec op).2 = out at htransition
  have hcommitted : ∀ lane pending appended result, journal.lanes lane = some pending
      → pending.appended = some appended
      → journal.state.Commits codec pending.call pending.stage appended result
      → result.1.store = true := by
    intro lane pending appended result hlane happended h
    cases appended with
    | error error => exact absurd happended (hstored lane pending error hlane)
    | ok _ => exact h.touches.kept.trans hstore
  cases htransition with
  | unchanged _ | asked _ _ => exact hstore
  | entered hlane h => exact h.touches.kept.trans hstore
  | stored hlane =>
    unfold storeAnswers
    split
    . exact hstore
    . exact hstore
  | committed hlane happended h | continued hlane happended h =>
    exact hcommitted _ _ _ _ hlane happended h
  | restarted kept =>
    obtain ⟨recovered', hrecovers, _⟩ :=
      exists_recover_of_isPrefix hsound.recovers (List.take_prefix (max kept journal.synced) _)
    unfold openStore JournalState.openStore
    rw [hrecovers]
  | openFailed error => exact absurd rfl (hop error)

theorem store_before (hlog : ∃ recovered, recover log = .ok recovered)
    (hsynced : synced ≤ log.length) (hops : ∀ error, Op.openFailed error ∉ ops)
    (hstored : ∀ i, (before (step codec) (openStore log synced) ops i).Stored) (i : Nat) :
    (before (step codec) (openStore log synced) ops i).state.store = true := by
  apply before_of_le (P := fun journal : Journal => journal.state.store = true) (Nat.zero_le i)
  . obtain ⟨recovered, hrecovered⟩ := hlog
    change (JournalState.openStore log).store = true
    unfold JournalState.openStore
    rw [hrecovered]
  . intro k op _ _ hop hk
    obtain ⟨recovered, hsound⟩ := sound_before codec ops hlog hsynced k
    apply store_step hsound (hstored k) _ hk
    rintro error rfl
    exact hops error (List.mem_of_getElem? hop)

theorem recover_run (codec : FloatCodec) (log : EventLog) (synced : Nat) (ops : List Op)
    (hlog : ∃ recovered, recover log = .ok recovered) (hsynced : synced ≤ log.length)
    (hops : ∀ error, Op.openFailed error ∉ ops)
    (hstored : ∀ i, (before (step codec) (openStore log synced) ops i).Stored) :
    ∃ recovered, recover (run (step codec) (openStore log synced) ops).log = .ok recovered
      ∧ ∀ key, (run (step codec) (openStore log synced) ops).Idle key
        → recovered.jobs.lookup key
            = (run (step codec) (openStore log synced) ops).state.jobs.lookup key
          ∧ ∀ id, recovered.operations.lookup ⟨key, id⟩
            = ((run (step codec) (openStore log synced) ops).state.operations.lookup ⟨key, id⟩).map
              OperationState.bare := by
  have hrun : run (step codec) (openStore log synced) ops
      = before (step codec) (openStore log synced) ops ops.length := by
    unfold before
    rw [List.take_length]
  rw [hrun]
  obtain ⟨recovered, hsound⟩ := sound_before codec ops hlog hsynced ops.length
  have hstore := store_before hlog hsynced hops hstored ops.length
  refine ⟨recovered, hsound.recovers, ?_⟩
  intro key hidle
  have hview := hsound.idle hstore key hidle
  exact ⟨congrArg JobView.job hview, fun id => congrFun (congrArg JobView.operations hview) id⟩

section Sample

def sampleOperation : Operation where
  key := ⟨⟨"s", "p", "t", "u", "v"⟩, "job"⟩
  request := ⟨"d", "b", "shell.job", "pipe", none⟩
  operationId := "op-1"
  operationKind := "start"
  operationSha256 := "0000000000000000000000000000000000000000000000000000000000000000"

def firstOps (operation : Operation) (details : Document) : List Op :=
  let lane := stableJournalShardIndex operation.key
  [.call (.beginOperation operation details), .append lane .stored, .commit lane]

theorem stored_of_all {journal : Journal}
    (h : ∀ lane, (journal.lanes lane).all (fun pending => pending.appended.all Except.isOk)) :
    journal.Stored := by
  intro lane pending error hlane happended
  have hok := h lane
  rw [hlane, Option.all_some, happended] at hok
  cases hok

set_option maxRecDepth 10000

theorem stored_first (i : Nat) :
    (before (step bitsCodec) (openStore [] 0) (firstOps sampleOperation (.ofString "details"))
      i).Stored := by
  have hall : ∀ i : Fin 4, ∀ lane, ((before (step bitsCodec) (openStore [] 0)
      (firstOps sampleOperation (.ofString "details")) i).lanes lane).all
        (fun pending => pending.appended.all Except.isOk) := by
    decide +kernel
  apply stored_of_all
  cases Nat.lt_or_ge i 4 with
  | inl hlt => exact hall ⟨i, hlt⟩
  | inr hge =>
    rw [before, List.take_of_length_le (Nat.le_trans (by decide) hge)]
    exact hall 3

theorem recover_run_sample :
    ∃ recovered, recover (run (step bitsCodec) (openStore [] 0)
        (firstOps sampleOperation (.ofString "details"))).log = .ok recovered
      ∧ recovered.operations.lookup sampleOperation.operationKey
        = some (sampleOperation.accepted true true) := by
  obtain ⟨recovered, hrecovered, hkeys⟩ := recover_run bitsCodec [] 0
    (firstOps sampleOperation (.ofString "details")) ⟨.empty, rfl⟩ (Nat.le_refl _)
    (by simp [firstOps]) stored_first
  refine ⟨recovered, hrecovered, ?_⟩
  exact ((hkeys sampleOperation.key nofun).2 sampleOperation.operationId).trans rfl

end Sample

end Journal

end JobRuntime
