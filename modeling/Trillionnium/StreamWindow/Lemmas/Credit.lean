import Trillionnium.StreamWindow.Lemmas.Step

/-!
The credit account of a stream window: until the stream is closed, what is available and what was
granted add up to what was creditedBytes, and a closed stream has no credit.
-/

namespace StreamWindow

def creditedBytes : Op → Answer → Nat
  | .applyControl _ (.windowUpdate creditBytes), .control (.ok ⟨.applied, _⟩) => creditBytes
  | _, _ => 0

def grantedBytes : Op → Answer → Nat
  | .tryReserve _, .reservation (.ok (.granted bytes _)) => bytes
  | _, _ => 0

theorem creditedBytes_eq_zero (h : ∀ command, ¬ Applies command op out) :
    creditedBytes op out = 0 := by
  unfold creditedBytes
  split
  next seq creditBytes snapshot =>
    exact absurd ⟨⟨seq, rfl⟩, snapshot, rfl⟩ (h (.windowUpdate creditBytes))
  . rfl

theorem grantedBytes_eq_zero (h : ∀ bytes, ¬ Grants bytes op out) : grantedBytes op out = 0 := by
  unfold grantedBytes
  split
  next requested bytes remaining =>
    exact absurd ⟨⟨requested, rfl⟩, remaining, rfl⟩ (h bytes)
  . rfl

theorem Grants.grantedBytes_eq (h : Grants bytes op out) : grantedBytes op out = bytes := by
  obtain ⟨⟨_, rfl⟩, remaining, rfl⟩ := h
  rfl

namespace Window

open Machine

variable {window window' : Window} {op : Op} {out : Answer}

section

variable (h : window.Transition op out window')
include h

theorem Transition.config : window'.config = window.config := by
  cases h with
  | same _ _ | applied _ _ _ | granted _ _ _ => rfl

theorem Transition.availableCreditBytes_le
    (hle : window.state.availableCreditBytes ≤ window.config.maxCreditBytes) :
    window'.state.availableCreditBytes ≤ window.config.maxCreditBytes := by
  cases h with
  | same _ _ => exact hle
  | applied _ _ hstate =>
    cases hstate with
    | windowUpdate hmax => exact hmax
    | pause | resume => exact hle
    | close => apply Nat.zero_le
  | granted _ _ _ => exact Nat.le_trans (Nat.sub_le _ _) hle

theorem Transition.totalGrantedBytes :
    window'.state.totalGrantedBytes = window.state.totalGrantedBytes + grantedBytes op out := by
  cases h with
  | same _ hgrant => rw [grantedBytes_eq_zero hgrant, Nat.add_zero]
  | applied _ _ hstate =>
    cases hstate with
    | windowUpdate _ | pause | resume | close => rfl
  | granted hout _ _ => rw [hout.grantedBytes_eq]

theorem Transition.account
    (hopen : window.state.closed = false) (hclose : ¬ Applies .close op out) :
    window'.state.closed = false
      ∧ window'.state.availableCreditBytes + window'.state.totalGrantedBytes
        = window.state.availableCreditBytes + window.state.totalGrantedBytes + creditedBytes op out := by
  cases h with
  | same hcontrol _ => exact ⟨hopen, by rw [creditedBytes_eq_zero hcontrol, Nat.add_zero]⟩
  | applied hout _ hstate =>
    obtain ⟨_, snapshot, rfl⟩ := hout
    cases hstate with
    | windowUpdate _ =>
      refine ⟨hopen, ?_⟩
      simp only [State.record, creditedBytes]
      omega
    | pause | resume => exact ⟨hopen, rfl⟩
    | close => exact absurd ⟨⟨_, rfl⟩, snapshot, rfl⟩ hclose
  | granted hout _ hroom =>
    obtain ⟨_, remaining, rfl⟩ := hout
    refine ⟨hopen, ?_⟩
    simp only [creditedBytes]
    omega

end

def IsClosed (window : Window) : Prop :=
  window.state.closed = true ∧ window.state.availableCreditBytes = 0

section

variable (h : window.Transition op out window')
include h

theorem Transition.isClosed (hclosed : window.IsClosed) : window'.IsClosed := by
  cases h with
  | same _ _ => exact hclosed
  | applied _ hopen hstate =>
    rw [hopen hclosed.1] at hstate
    cases hstate
    exact ⟨rfl, rfl⟩
  | granted _ hopen _ =>
    rw [hclosed.1] at hopen
    cases hopen

theorem Transition.isClosed_of_close (hclose : Applies .close op out) : window'.IsClosed := by
  cases h with
  | same hcontrol _ => exact absurd hclose (hcontrol .close)
  | applied _ _ hstate =>
    obtain ⟨⟨_, hop⟩, _⟩ := hclose
    cases hop
    cases hstate
    exact ⟨rfl, rfl⟩
  | granted _ _ _ =>
    obtain ⟨⟨_, hop⟩, _⟩ := hclose
    cases hop

theorem Transition.not_grants (hclosed : window.IsClosed)
    (bytes : Nat) : ¬ Grants bytes op out := by
  cases h with
  | same _ hgrant => exact hgrant bytes
  | applied _ _ _ =>
    rintro ⟨⟨_, hop⟩, _⟩
    cases hop
  | granted _ hopen _ =>
    rw [hclosed.1] at hopen
    cases hopen

theorem Transition.not_applies (hclosed : window.IsClosed)
    {command : StreamControl} (hcommand : command ≠ .close) : ¬ Applies command op out := by
  cases h with
  | same hcontrol _ => exact hcontrol command
  | applied _ hopen _ =>
    rintro ⟨⟨_, hop⟩, _⟩
    cases hop
    exact hcommand (hopen hclosed.1)
  | granted _ _ _ =>
    rintro ⟨⟨_, hop⟩, _⟩
    cases hop

end

theorem new_eq_ok {config : StreamWindowConfig} (h : Window.new config = .ok window) :
    window.config = config
      ∧ window.state = ⟨config.initialCreditBytes, false, false, 0, 0, []⟩ := by
  unfold Window.new at h
  split at h
  . cases h
  . cases h
    exact ⟨rfl, rfl⟩

theorem availableCreditBytes_le_run {config : StreamWindowConfig} (hconfig : window.config = config)
    (hle : window.state.availableCreditBytes ≤ config.maxCreditBytes) :
    (run step window ops).state.availableCreditBytes ≤ config.maxCreditBytes := by
  have hrun : (run step window ops).config = config
      ∧ (run step window ops).state.availableCreditBytes ≤ config.maxCreditBytes := by
    apply run_invariant (P := fun window : Window => window.config = config
      ∧ window.state.availableCreditBytes ≤ config.maxCreditBytes) ⟨hconfig, hle⟩
    rintro window op ⟨rfl, hle⟩
    have hstep := window.step_transition op
    exact ⟨hstep.config, hstep.availableCreditBytes_le hle⟩
  exact hrun.2

theorem isClosed_before {i : Nat} (hij : i < j) (hi : Happens step window ops (Applies .close) i) :
    (before step window ops j).IsClosed := by
  obtain ⟨op, hclose, hnext⟩ := hi.exists_step
  have hclosed := (step_transition _ op).isClosed_of_close hclose
  rw [← hnext] at hclosed
  apply before_of_le hij hclosed
  intro _ op' _ _ _ hk
  exact (step_transition _ op').isClosed hk

theorem credit_account {config : StreamWindowConfig} (hnew : Window.new config = .ok window)
    (ops : List Op) :
    ((∀ i, ¬ Happens step window ops (Applies .close) i)
      → (run step window ops).state.availableCreditBytes
            + (run step window ops).state.totalGrantedBytes
          = config.initialCreditBytes + total step creditedBytes window ops)
    ∧ (run step window ops).state.availableCreditBytes ≤ config.maxCreditBytes
    ∧ (run step window ops).state.totalGrantedBytes = total step grantedBytes window ops
    ∧ (∀ i j, i < j → Happens step window ops (Applies .close) i
      → (before step window ops j).state.availableCreditBytes = 0
        ∧ (∀ bytes, ¬ Happens step window ops (Grants bytes) j)
        ∧ (∀ creditBytes, ¬ Happens step window ops (Applies (.windowUpdate creditBytes)) j)) := by
  obtain ⟨hconfig, hstate⟩ := new_eq_ok hnew
  refine ⟨?_, ?_, ?_, ?_⟩
  . intro hopen
    have hrun := run_total
      (g := fun window : Window =>
        window.state.availableCreditBytes + window.state.totalGrantedBytes)
      (fun window op => (window.step_transition op).account) (by rw [hstate]) hopen
    rw [hrun, hstate]
    rfl
  . apply availableCreditBytes_le_run hconfig
    rw [hstate]
    exact StreamWindowConfig.initialCreditBytes_le (hconfig ▸ window.valid)
  . have hnever : ∀ i, ¬ Happens step window ops (fun _ _ => False) i := by
      rintro i ⟨_, _, _, h⟩
      exact h
    have hrun := run_total (P := fun _ => True)
      (g := fun window : Window => window.state.totalGrantedBytes)
      (fun window op _ _ => ⟨trivial, (window.step_transition op).totalGrantedBytes⟩) trivial hnever
    rw [hrun, hstate, Nat.zero_add]
  . intro i j hij hi
    have hclosed := isClosed_before hij hi
    refine ⟨hclosed.2, ?_, ?_⟩
    . rintro bytes hgrant
      obtain ⟨op, hgrant, _⟩ := hgrant.exists_step
      exact (step_transition _ op).not_grants hclosed bytes hgrant
    . rintro creditBytes happly
      obtain ⟨op, happly, _⟩ := happly.exists_step
      exact (step_transition _ op).not_applies hclosed (by simp) happly

section Sample

def sampleWindow : Window := ⟨.default, rfl, ⟨256 * 1024, false, false, 0, 0, []⟩⟩

def sampleOps : List Op :=
  [.applyControl 0 (.windowUpdate 1024), .tryReserve 4096, .applyControl 1 .close, .tryReserve 1]

theorem credit_account_sample :
    Window.new .default = .ok sampleWindow
      ∧ (run step sampleWindow (sampleOps.take 2)).state.availableCreditBytes + 4096
          = 256 * 1024 + 1024
      ∧ Happens step sampleWindow sampleOps (Applies .close) 2
      ∧ ¬ Happens step sampleWindow sampleOps (Grants 1) 3 := by
  have hnew : Window.new .default = .ok sampleWindow := rfl
  have hclose : Happens step sampleWindow sampleOps (Applies .close) 2 :=
    ⟨_, _, ⟨rfl, rfl⟩, ⟨1, rfl⟩, _, rfl⟩
  have hopen : ∀ i, ¬ Happens step sampleWindow (sampleOps.take 2) (Applies .close) i := by
    rintro i ⟨op, out, ⟨hop, _⟩, ⟨seq, rfl⟩, _⟩
    have hmem := List.mem_of_getElem? hop
    simp [sampleOps] at hmem
  refine ⟨hnew, ?_, hclose, ?_⟩
  . exact (credit_account hnew (sampleOps.take 2)).1 hopen
  . exact ((credit_account hnew sampleOps).2.2.2 2 3 (by decide) hclose).2.1 1

end Sample

end Window

end StreamWindow
