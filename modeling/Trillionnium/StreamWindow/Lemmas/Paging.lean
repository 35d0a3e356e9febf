import Trillionnium.Data.Retained
import Trillionnium.StreamWindow.Lemmas.Credit

/-!
The control history of a stream window: which controls it retains and that they are all read by
following the cursors of its pages.
-/

namespace StreamWindow

namespace Window

open Machine Retained ControlHistory

variable {window window' : Window}

structure Retains (window : Window) : Prop where
  consecutive :
    Consecutive ControlRecord.seq window.state.nextControlSeq window.state.history
  bound : window.state.nextControlSeq ≤ Checked.u64Max

theorem Transition.retains (h : window.Transition op out window') (hretains : window.Retains) :
    window'.Retains := by
  cases h with
  | same _ _ => exact hretains
  | @applied command state _ _ _ hstate hseq =>
    have hsame : state.history = window.state.history
        ∧ state.nextControlSeq = window.state.nextControlSeq := by
      cases hstate with
      | windowUpdate _ | pause | resume | close => exact ⟨rfl, rfl⟩
    unfold State.record
    rw [hsame.1, hsame.2]
    have hbound := hretains.bound
    constructor
    . exact (hretains.consecutive.concat rfl).suffix push_suffix
    . dsimp only
      omega
  | granted _ _ _ => exact ⟨hretains.consecutive, hretains.bound⟩

theorem retains_run {config : StreamWindowConfig} (hnew : Window.new config = .ok window)
    (ops : List Op) : (run step window ops).Retains := by
  have hstart : window.Retains := by
    obtain ⟨_, hstate⟩ := new_eq_ok hnew
    constructor
    . rw [hstate]
      exact consecutive_nil
    . rw [hstate]
      apply Nat.zero_le
  apply run_invariant hstart
  intro window op h
  exact (window.step_transition op).retains h

theorem config_run {config : StreamWindowConfig} (hnew : Window.new config = .ok window)
    (ops : List Op) : (run step window ops).config = config := by
  apply run_invariant (P := fun window : Window => window.config = config) (new_eq_ok hnew).1
  intro window op h
  rw [← h]
  exact (window.step_transition op).config

theorem Retains.earliestControlSeq_eq (h : window.Retains) :
    window.state.earliestControlSeq
      = window.state.nextControlSeq - window.state.history.length := by
  unfold State.earliestControlSeq
  cases hhistory : window.state.history with
  | nil => rfl
  | cons record records =>
    have hseq := h.consecutive 0 record (by rw [hhistory]; rfl)
    rw [hhistory] at hseq
    dsimp only [List.head?_cons]
    omega

theorem Retains.serves (h : window.Retains) (hpage : window.controlHistoryFrom c limit = .ok page) :
    window.state.earliestControlSeq ≤ c ∧ c ≤ window.state.nextControlSeq
      ∧ Serves ControlRecord.seq window.state.nextControlSeq window.state.history c
        page.records page.nextCursor page.hasMore := by
  unfold controlHistoryFrom at hpage
  obtain ⟨hlimit, hpage⟩ := Except.error_ite_eq_ok.mp hpage
  obtain ⟨hlow, hpage⟩ := Except.error_ite_eq_ok.mp hpage
  obtain ⟨hnext, hpage⟩ := Except.error_ite_eq_ok.mp hpage
  cases hpage
  have hbound := h.bound
  have hearliest := h.earliestControlSeq_eq
  refine ⟨by omega, by omega, ⟨limit, by omega, rfl⟩, ?_, rfl⟩
  dsimp only
  split
  next record hlast =>
    have hseq := h.consecutive.seq_of_getLast? hlast
    obtain ⟨i, hi⟩ := List.getElem?_of_mem
      (List.mem_of_mem_filter (List.mem_of_mem_take (List.mem_of_getLast? hlast)))
    have hrecord := h.consecutive i record hi
    have hlt := (List.getElem?_eq_some_iff.mp hi).1
    rw [Nat.min_eq_left (by omega)]
    exact hseq
  next hlast =>
    rw [List.getLast?_eq_none_iff.mp hlast]
    dsimp only [List.length_nil]
    omega

theorem exists_page (hpos : 0 < limit) (hlimit : limit ≤ window.config.maxControlHistory)
    (hlow : window.state.earliestControlSeq ≤ c) (hnext : c ≤ window.state.nextControlSeq) :
    ∃ page, window.controlHistoryFrom c limit = .ok page := by
  unfold controlHistoryFrom
  rw [if_neg (by omega)]
  dsimp only
  rw [if_neg (by omega), if_neg (by omega)]
  exact ⟨_, rfl⟩

theorem control_history_visited {config : StreamWindowConfig}
    (hnew : Window.new config = .ok window) (ops : List Op) (hrun : window' = run step window ops) :
    Consecutive ControlRecord.seq window'.state.nextControlSeq window'.state.history
    ∧ (∀ c limit page, window'.controlHistoryFrom c limit = .ok page
      → (page.hasMore = true ↔ ∃ record ∈ window'.state.history, page.nextCursor ≤ record.seq))
    ∧ (∀ start (limits : Nat → Nat), window'.state.earliestControlSeq ≤ start
      → start ≤ window'.state.nextControlSeq
      → (∀ i, 0 < limits i ∧ limits i ≤ config.maxControlHistory)
      → ∃ pages, visit (fun i c => window'.controlHistoryFrom c (limits i))
          nextCursor hasMore (window'.state.history.length + 1) start
          = some pages
        ∧ pages.flatMap records
          = window'.state.history.filter (fun record => start ≤ record.seq))
    ∧ (∀ start limit, (start < window'.state.earliestControlSeq
        ∨ window'.state.nextControlSeq < start ∨ limit = 0 ∨ config.maxControlHistory < limit)
      → ∃ e, window'.controlHistoryFrom start limit = .error e) := by
  subst hrun
  have hretains := retains_run hnew ops
  have hconfig := config_run hnew ops
  generalize run step window ops = window at hretains hconfig
  subst hconfig
  refine ⟨hretains.consecutive, ?_, ?_, ?_⟩
  . intro c limit page hpage
    obtain ⟨hlow, hnext, hserves⟩ := hretains.serves hpage
    have hcursor := hserves.cursor_eq
    rw [hretains.consecutive.exists_le_iff (by omega), hserves.more_eq, decide_eq_true_iff]
  . intro start limits hlow hnext hlimits
    refine hretains.consecutive.visit_eq ?_ _ hlow hnext ?_
    . intro i c hlow hnext
      obtain ⟨page, hpage⟩ := exists_page (hlimits i).1 (hlimits i).2 hlow hnext
      exact ⟨page, hpage, (hretains.serves hpage).2.2⟩
    . have hfilter := List.length_filter_le (fun record : ControlRecord => start ≤ record.seq)
        window.state.history
      omega
  . intro start limit hrefused
    cases hpage : window.controlHistoryFrom start limit with
    | error e => exact ⟨e, rfl⟩
    | ok page =>
      have hserves := hretains.serves hpage
      unfold controlHistoryFrom at hpage
      have hlimit := (Except.error_ite_eq_ok.mp hpage).1
      omega

section Sample

def smallWindow : Window := ⟨⟨1, 1, 1, 1⟩, rfl, ⟨1, false, false, 0, 0, []⟩⟩

def smallOps : List Op := [.applyControl 0 .pause, .applyControl 1 .resume]

theorem control_history_visited_small :
    (run step smallWindow smallOps).state.history = [⟨1, .resume⟩]
      ∧ ∃ pages, visit (fun _ c => (run step smallWindow smallOps).controlHistoryFrom c 1)
          nextCursor hasMore 2 1 = some pages
        ∧ pages.flatMap records = [⟨1, .resume⟩] := by
  have hnew : Window.new ⟨1, 1, 1, 1⟩ = .ok smallWindow := rfl
  refine ⟨rfl, ?_⟩
  exact (control_history_visited hnew smallOps rfl).2.2.1 1 (fun _ => 1) (by decide) (by decide)
    (fun _ => by decide)

/-- The control `1` is retained, but a visit that starts before it is refused. -/
theorem control_history_stale_start :
    Window.new ⟨1, 1, 1, 1⟩ = .ok smallWindow
      ∧ (run step smallWindow smallOps).state.history = [⟨1, .resume⟩]
      ∧ (run step smallWindow smallOps).controlHistoryFrom 0 1 = .error (.staleControl 0 1) :=
  ⟨rfl, rfl, rfl⟩

end Sample

end Window

end StreamWindow
