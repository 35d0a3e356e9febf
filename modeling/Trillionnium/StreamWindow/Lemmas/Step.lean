import Trillionnium.StreamWindow.Impl.Window

namespace StreamWindow

def Applies (command : StreamControl) (op : Op) (out : Answer) : Prop :=
  (∃ seq, op = .applyControl seq command) ∧ ∃ snapshot, out = .control (.ok ⟨.applied, snapshot⟩)

def Grants (bytes : Nat) (op : Op) (out : Answer) : Prop :=
  (∃ requested, op = .tryReserve requested)
    ∧ ∃ remaining, out = .reservation (.ok (.granted bytes remaining))

inductive State.Performs (config : StreamWindowConfig) (state : State) :
    StreamControl → State → Prop where
  | windowUpdate {creditBytes : Nat}
      (h : state.availableCreditBytes + creditBytes ≤ config.maxCreditBytes) :
    Performs config state (.windowUpdate creditBytes)
      { state with availableCreditBytes := state.availableCreditBytes + creditBytes }
  | pause : Performs config state .pause { state with paused := true }
  | resume : Performs config state .resume { state with paused := false }
  | close :
    Performs config state .close
      { state with closed := true, paused := true, availableCreditBytes := 0 }

theorem State.perform_eq_ok {state state' : State} {config : StreamWindowConfig}
    {command : StreamControl} (h : state.perform config command = .ok state') :
    state.Performs config command state' := by
  cases command with
  | windowUpdate creditBytes =>
    simp only [perform] at h
    split at h
    next available hadd =>
      cases h
      obtain ⟨hadd, hle⟩ := Option.filter_eq_some_iff.mp hadd
      rw [(Checked.add_eq_some.mp hadd).1] at hle ⊢
      exact .windowUpdate (of_decide_eq_true hle)
    . cases h
  | pause =>
    cases h
    exact .pause
  | resume =>
    cases h
    exact .resume
  | close =>
    cases h
    exact .close

namespace Window

open Machine

inductive Transition (window : Window) : Op → Answer → Window → Prop where
  | same {op : Op} {out : Answer} (hcontrol : ∀ command, ¬ Applies command op out)
      (hgrant : ∀ bytes, ¬ Grants bytes op out) : Transition window op out window
  | applied {command : StreamControl} {state : State} {out : Answer}
      (hout : Applies command (.applyControl window.state.nextControlSeq command) out)
      (hopen : window.state.closed = true → command = .close)
      (hstate : window.state.Performs window.config command state)
      (hseq : window.state.nextControlSeq ≠ Checked.u64Max) :
    Transition window (.applyControl window.state.nextControlSeq command) out
      { window with state := state.record window.config ⟨window.state.nextControlSeq, command⟩ }
  | granted {bytes : Nat} {out : Answer} (hout : Grants bytes (.tryReserve bytes) out)
      (hopen : window.state.closed = false) (hroom : bytes ≤ window.state.availableCreditBytes) :
    Transition window (.tryReserve bytes) out
      { window with
        state := { window.state with
          availableCreditBytes := window.state.availableCreditBytes - bytes
          totalGrantedBytes := window.state.totalGrantedBytes + bytes } }

variable {window : Window}

theorem applyControl_eq_ok {window' : Window} {seq : Nat} {command : StreamControl}
    {result : ApplyResult} (h : window.applyControl seq command = .ok (result, window')) :
    (result.disposition = .existing ∧ window' = window)
      ∨ (result.disposition = .applied
        ∧ seq = window.state.nextControlSeq
        ∧ (window.state.closed = true → command = .close)
        ∧ window.state.nextControlSeq ≠ Checked.u64Max
        ∧ ∃ state, window.state.Performs window.config command state
          ∧ window' = { window with state := state.record window.config ⟨seq, command⟩ }) := by
  obtain ⟨_, _, h⟩ := Except.bind_eq_ok.mp h
  dsimp only at h
  split at h
  . split at h
    . split at h
      . cases h
        exact .inl ⟨rfl, rfl⟩
      . cases h
    . cases h
  next hlt =>
    split at h
    . cases h
    next hgt =>
      split at h
      . cases h
      next hseq =>
        split at h
        . cases h
        next hclosed =>
          obtain ⟨state, hstate, h⟩ := Except.bind_eq_ok.mp h
          cases h
          refine .inr ⟨rfl, by omega, ?_, hseq, state, State.perform_eq_ok hstate, rfl⟩
          intro hc
          apply Classical.byContradiction
          intro hcommand
          exact hclosed ⟨hc, hcommand⟩

theorem step_applyControl (window : Window) (seq : Nat) (command : StreamControl) :
    window.Transition (.applyControl seq command) (window.step (.applyControl seq command)).2
      (window.step (.applyControl seq command)).1 := by
  apply settle_rule (P := window.Transition (.applyControl seq command))
  . intro e
    apply Transition.same
    . simp [Applies]
    . simp [Grants]
  . intro result window' h
    cases applyControl_eq_ok h with
    | inl hexisting =>
      obtain ⟨hdisposition, rfl⟩ := hexisting
      apply Transition.same
      . rintro command' ⟨_, snapshot, hout⟩
        cases hout
        cases hdisposition
      . simp [Grants]
    | inr happlied =>
      obtain ⟨hdisposition, rfl, hopen, hseq, state, hstate, rfl⟩ := happlied
      apply Transition.applied _ hopen hstate hseq
      refine ⟨⟨_, rfl⟩, result.snapshot, ?_⟩
      rw [← hdisposition]

theorem step_tryReserve {window : Window} :
    window.Transition (.tryReserve bytes) (window.step (.tryReserve bytes)).2
      (window.step (.tryReserve bytes)).1 := by
  have hblocked : ∀ result : Result ReserveDisposition,
      (∀ granted remaining, result ≠ .ok (.granted granted remaining))
        → window.Transition (.tryReserve bytes) (.reservation result) window := by
    intro result hresult
    apply Transition.same
    . simp [Applies]
    . rintro bytes' ⟨_, remaining, hout⟩
      cases hout
      exact hresult _ _ rfl
  apply settle_rule (P := window.Transition (.tryReserve bytes))
  . intro e
    apply hblocked
    simp
  . intro result window' h
    unfold tryReserve at h
    dsimp only at h
    split at h
    . cases h
    . split at h
      . cases h
        apply hblocked
        simp
      next hclosed =>
        split at h
        . cases h
          apply hblocked
          simp
        . split at h
          . cases h
            apply hblocked
            simp
          next hroom =>
            split at h
            . cases h
            next hadd =>
              cases h
              rw [(Checked.add_eq_some.mp hadd).1]
              apply Transition.granted ⟨⟨_, rfl⟩, _, rfl⟩ _ (Nat.le_of_not_lt hroom)
              exact Bool.eq_false_iff.mpr hclosed

theorem step_transition (window : Window) (op : Op) :
    window.Transition op (window.step op).2 (window.step op).1 := by
  cases op with
  | applyControl seq command => apply step_applyControl
  | tryReserve bytes => apply step_tryReserve
  | controlHistoryFrom _ _ | snapshot =>
    apply Transition.same
    . simp [Applies]
    . simp [Grants]

end Window

end StreamWindow
