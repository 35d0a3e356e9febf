import Trillionnium.Data.List
import Trillionnium.ControlPlane.Lemmas.Accounting

/-!
The chain of audited decisions passes its own verification after any calls.
-/

namespace ControlPlane

open Json Machine

namespace DecisionAuditState

variable (codec : FloatCodec)

structure Links (earlier : List DecisionAuditEntry) (entry : DecisionAuditEntry) : Prop where
  valid : entry.validate codec = .ok ()
  sequence : entry.sequence = earlier.length + 1
  previous : entry.previousEntryDigest = earlier.getLast?.map DecisionAuditEntry.entryDigest
  target : entry.kind = .rollback → ∃ decision ∈ earlier, decision.kind = .decision
    ∧ decision.controlEpoch = entry.controlEpoch ∧ decision.decisionDigest = entry.decisionDigest

def latest (epoch : Nat) (entries : List DecisionAuditEntry) : Option String :=
  (entries.filter (fun entry => entry.controlEpoch = epoch)).getLast?.map
    DecisionAuditEntry.decisionDigest

structure Chained (state : DecisionAuditState) : Prop where
  links : ∀ earlier entry later, state.entries = earlier ++ entry :: later → Links codec earlier entry
  active : state.activeDigest = latest state.currentEpoch state.entries
  sequence : state.nextSequence = state.entries.length
  bound : state.entries.length ≤ state.maxEntries ∧ state.maxEntries ≤ maxAuditEntries
  past : ∀ entry ∈ state.entries, entry.controlEpoch ≤ state.currentEpoch

def chain (epoch : Nat) (entries : List DecisionAuditEntry) : Chain where
  expectedSequence := entries.length + 1
  previousDigest := entries.getLast?.map DecisionAuditEntry.entryDigest
  activeDigest := latest epoch entries
  decisions := ((entries.filter (fun entry => entry.kind = .decision)).map
    fun entry => (entry.controlEpoch, entry.decisionDigest)).reverse

variable {codec} {state state' : DecisionAuditState} {entries : List DecisionAuditEntry}
  {entry : DecisionAuditEntry}

theorem latest_concat :
    latest epoch (entries ++ [entry])
      = if entry.controlEpoch = epoch then some entry.decisionDigest else latest epoch entries := by
  unfold latest
  rw [List.filter_append]
  split
  next h => simp [h]
  next h => simp [h]

theorem verifyEntry_chain (h : Links codec entries entry) (hlength : entries.length < maxAuditEntries) :
    state.verifyEntry codec (chain state.currentEpoch entries) entry
      = .ok (chain state.currentEpoch (entries ++ [entry])) := by
  have htarget : ¬ (entry.kind = .rollback ∧ (entry.controlEpoch, entry.decisionDigest)
      ∉ (chain state.currentEpoch entries).decisions) := by
    rintro ⟨hkind, hnone⟩
    obtain ⟨decision, hmem, hdecision, hepoch, hdigest⟩ := h.target hkind
    apply hnone
    rw [← hepoch, ← hdigest]
    simpa [chain] using ⟨decision, ⟨hmem, hdecision⟩, rfl, rfl⟩
  have hnext : Checked.add (chain state.currentEpoch entries).expectedSequence 1
      = some (entries.length + 1 + 1) := by
    refine Checked.add_eq_some.mpr ⟨rfl, ?_⟩
    have hle : entries.length + 1 ≤ maxAuditEntries := hlength
    exact (Nat.add_le_add_right hle 1).trans (by decide)
  unfold verifyEntry
  rw [h.valid]
  dsimp only [rejectIf]
  rw [if_neg (by simp [chain, h.sequence, h.previous]), if_neg htarget, hnext]
  simp only [Except.ok_bind, chain, latest_concat, List.filter_append]
  cases hkind : entry.kind with
  | decision | rollback => simp [hkind, pure, Except.pure]

theorem foldlM_verifyEntry
    (h : ∀ earlier entry later, entries = earlier ++ entry :: later → Links codec earlier entry)
    (hlength : entries.length ≤ maxAuditEntries) :
    entries.foldlM (state.verifyEntry codec) (chain state.currentEpoch [])
      = .ok (chain state.currentEpoch entries) := by
  induction entries using List.reverseRecOn with
  | nil => rfl
  | append_singleton entries entry ih =>
    rw [List.length_append, List.length_singleton] at hlength
    rw [List.foldlM_append, ih _ (by omega)]
    . rw [Except.ok_bind, List.foldlM_cons, verifyEntry_chain (h entries entry [] rfl) (by omega)]
      rfl
    . intro earlier entry' later heq
      apply h earlier entry' (later ++ [entry])
      rw [heq, List.append_assoc]
      rfl

theorem Chained.verify (h : Chained codec state) : state.verify codec = .ok () := by
  unfold DecisionAuditState.verify
  change (state.entries.foldlM (state.verifyEntry codec) (chain state.currentEpoch []) >>= _) = _
  rw [foldlM_verifyEntry h.links (h.bound.1.trans h.bound.2), Except.ok_bind]
  exact if_neg (not_not.mpr h.active)

theorem Keeps.chained (hkeeps : state.Keeps codec state') (h : Chained codec state) :
    Chained codec state' := by
  cases hkeeps with
  | same => exact h
  | appended hroom hvalid hsequence hepoch hprevious htarget =>
    refine ⟨?_, ?_, ?_, ?_, ?_⟩
    . intro earlier entry later heq
      cases later using List.reverseRecOn with
      | nil =>
        obtain ⟨hearlier, hentry⟩ := List.append_inj' heq rfl
        cases hentry
        rw [h.sequence] at hsequence
        rw [← hearlier]
        exact ⟨hvalid, hsequence, hprevious, htarget⟩
      | append_singleton later last =>
        rw [← List.cons_append, ← List.append_assoc] at heq
        exact h.links earlier entry later (List.append_inj' heq rfl).1
    . rw [latest_concat, if_pos hepoch]
    . rw [List.length_append, h.sequence]
      rfl
    . rw [List.length_append]
      exact ⟨hroom, h.bound.2⟩
    . exact List.forall_mem_concat h.past hepoch.le

theorem Chained.rotated (h : Chained codec state) (hlt : state.currentEpoch < nextEpoch) :
    Chained codec { state with currentEpoch := nextEpoch, activeDigest := none } := by
  refine ⟨h.links, ?_, h.sequence, h.bound, ?_⟩
  . -- No entry has the epoch that begins.
    have hnone : state.entries.filter (fun entry => entry.controlEpoch = nextEpoch) = [] := by
      rw [List.filter_eq_nil_iff]
      intro entry hmem heq
      have hle := h.past entry hmem
      rw [of_decide_eq_true heq] at hle
      omega
    unfold latest
    rw [hnone]
    rfl
  . intro entry hmem
    exact (h.past entry hmem).trans (Nat.le_of_lt hlt)

end DecisionAuditState

namespace System

open DecisionAuditState

theorem Transition.chained {system system' : System} (h : system.Transition codec op out system')
    (hchained : Chained codec system.audit) : Chained codec system'.audit := by
  cases h with
  | kept _ _ haudit => exact haudit.chained hchained
  | released _ _ | reserved _ _ _ _ _ | rotatedRegistry _ _ _ => exact hchained
  | rotatedAudit _ _ hlt => exact hchained.rotated hlt
  | rotated _ _ hlt _ haudit => exact hchained.rotated (haudit ▸ hlt)

variable (codec : FloatCodec) {system : System} {epoch maxEntries : Nat}

theorem chained_run (hnew : DecisionAuditState.new epoch maxEntries = .ok system.audit) :
    Chained codec (run (step codec) system ops).audit := by
  apply run_invariant (P := fun system : System => Chained codec system.audit)
  . unfold DecisionAuditState.new at hnew
    split at hnew
    . cases hnew
    . split at hnew
      . cases hnew
      next hbound =>
        rw [not_or, Nat.not_lt] at hbound
        rw [← Except.ok.inj hnew]
        refine ⟨?_, rfl, rfl, ⟨Nat.zero_le _, hbound.2⟩, nofun⟩
        intro earlier entry later heq
        simp at heq
  . intro system op h
    exact (step_transition codec system op).chained h

theorem audit_verifies (hnew : DecisionAuditState.new epoch maxEntries = .ok system.audit)
    (ops : List Op) :
    (run (step codec) system ops).audit.verify codec = .ok ()
      ∧ Chained codec (run (step codec) system ops).audit :=
  ⟨(chained_run codec hnew).verify, chained_run codec hnew⟩

theorem audit_verifies_rotated :
    DecisionAuditState.new 1 4096 = .ok sampleSystem.audit
      ∧ (run (step sampleCodec) sampleSystem [.rotateAudit 2, .rotateAudit 2]).audit.verify sampleCodec
        = .ok () := by
  have hnew : DecisionAuditState.new 1 4096 = .ok sampleSystem.audit := rfl
  exact ⟨hnew, (audit_verifies sampleCodec hnew [.rotateAudit 2, .rotateAudit 2]).1⟩

end System

end ControlPlane
