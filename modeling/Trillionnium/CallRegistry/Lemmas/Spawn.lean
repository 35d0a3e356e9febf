import Trillionnium.CallRegistry.Lemmas.Entry

/-!
Spawn claims over whole runs of the call registry: an entry is granted at most one spawn, none after
it was fenced, and no two grants share a generation. A verdict that a call was not started is final.
-/

namespace CallRegistry

variable {snapshot : CallSnapshot}

def Fences (key : CallKey) (op : Op) (out : Answer) : Prop :=
  (op = .requestCancel key ∨ op = .inhibitSpawn key ∨ op = .markConnectionLost key)
    ∧ ∃ snapshot, out = .observed (.ok snapshot)

namespace Registry

open Machine

variable {registry : Registry} {ops : List Op} {key : CallKey}

theorem settle_mutate
    (h : (settle registry Answer.observed (registry.mutate key change)).2 = .observed (.ok snapshot)) :
    ∃ entry, registry.get? key = some entry
      ∧ (settle registry Answer.observed (registry.mutate key change)).1
          = registry.insert key (change entry) := by
  unfold mutate at h ⊢
  cases hget : registry.get? key with
  | none =>
    rw [hget] at h
    cases h
  | some entry => exact ⟨entry, rfl, rfl⟩

theorem has_insert {P : Entry → Prop} {entry : Entry} (h : P entry) :
    (registry.insert key entry).Has key P := by
  exact ⟨entry, get?_insert_self registry key entry, h⟩

theorem step_fences (hsound : registry.Sound) (h : Fences key op (registry.step op).2) :
    (registry.step op).1.Has key Entry.isFenced := by
  obtain ⟨hop, snapshot, hout⟩ := h
  obtain rfl | rfl | rfl := hop
  . obtain ⟨entry, _, hstep⟩ := settle_mutate hout
    rw [step, requestCancel, hstep]
    apply has_insert
    intro inhibited _
    split
    next hcancel => simp [hcancel]
    . simp [push]
  . obtain ⟨entry, _, hstep⟩ := settle_mutate hout
    rw [step, inhibitSpawn, hstep]
    apply has_insert
    intro inhibited haccepted
    split at haccepted
    . cases haccepted
      rfl
    next hdispatch =>
      cases inhibited with
      | false => exact absurd haccepted hdispatch
      | true => rfl
  . obtain ⟨entry, hget, hstep⟩ := settle_mutate hout
    rw [step, markConnectionLost, hstep]
    apply has_insert
    intro inhibited haccepted
    split at haccepted
    next hlost =>
      -- The connection was lost before, the entry has been inhibited since.
      rw [(hsound key entry hget).lost inhibited haccepted hlost]
      rfl
    . rw [Entry.inhibit_eq_accepted haccepted]
      rfl

theorem Transition.nextSpawnGeneration_le (h : registry.Transition op out registry') :
    registry.nextSpawnGeneration ≤ registry'.nextSpawnGeneration := by
  cases h with
  | same _ | changed _ _ _ | created _ _ _ _ | removed _ _ _ => apply Nat.le_refl
  | granted _ _ _ _ => apply Nat.le_succ

theorem Transition.nextSpawnGeneration_of_grants (h : registry.Transition op out registry')
    (hgrant : Grants key generation op out) :
    registry'.nextSpawnGeneration = registry.nextSpawnGeneration + 1 := by
  cases h with
  | same hquiet | changed _ _ hquiet | created _ _ _ hquiet =>
    exact absurd hgrant (hquiet.not_grants key generation op)
  | removed hremove _ _ => exact absurd hgrant (not_grants_of_removes hremove generation)
  | granted _ _ _ _ => rfl

theorem generation_lt {key : CallKey} {i : Nat} (hij : i < j)
    (hi : Happens step registry ops (Grants key generation) i)
    (hj : Happens step registry ops (Grants key' generation') j) : generation < generation' := by
  obtain ⟨_, hgrant, hnext⟩ := hi.exists_step
  obtain ⟨_, hgrant', _⟩ := hj.exists_step
  have hmono := before_mono registry ops
    (fun registry op => (registry.step_transition op).nextSpawnGeneration_le) (show i + 1 ≤ j from hij)
  rw [hnext, (step_transition _ _).nextSpawnGeneration_of_grants hgrant,
    ← (step_grants hgrant).1, ← (step_grants hgrant').1] at hmono
  exact hmono

theorem exists_removes {i : Nat} (hij : i ≤ j)
    (hi : (before step registry ops i).Has key Entry.isFenced)
    (hj : Happens step registry ops (Grants key generation) j) :
    ∃ k, i ≤ k ∧ k < j ∧ Happens step registry ops (Removes key) k := by
  obtain ⟨op, hgrant, _⟩ := hj.exists_step
  obtain ⟨k, op, hik, hkj, hop, hfenced, hlost⟩ := exists_lost hij hi (step_grants hgrant).2.1
  cases has_isFenced_step hfenced with
  | inl hkept => exact absurd hkept hlost
  | inr hremove => exact ⟨k, hik, hkj, op, _, ⟨hop, rfl⟩, hremove⟩

theorem sound_before {limits : RegistryLimits} (hnew : Registry.new limits = .ok registry)
    (ops : List Op) (i : Nat) : (before step registry ops i).Sound := by
  apply before_invariant (sound_new hnew)
  intro registry op h
  apply sound_step
  exact h

theorem claimSpawn_granted_once {limits : RegistryLimits} {registry : Registry}
    (hnew : Registry.new limits = .ok registry) (ops : List Op) :
    (∀ key i j generation generation', i < j
      → Happens step registry ops (Grants key generation) i
      → Happens step registry ops (Grants key generation') j
      → ∃ k, i < k ∧ k < j ∧ Happens step registry ops (Removes key) k)
    ∧ (∀ key i j generation, i < j
      → Happens step registry ops (Fences key) i
      → Happens step registry ops (Grants key generation) j
      → ∃ k, i < k ∧ k < j ∧ Happens step registry ops (Removes key) k)
    ∧ (∀ key key' i j generation generation', i ≠ j
      → Happens step registry ops (Grants key generation) i
      → Happens step registry ops (Grants key' generation') j
      → generation ≠ generation') := by
  refine ⟨?_, ?_, ?_⟩
  . intro key i j generation generation' hij hi hj
    obtain ⟨op, hgrant, hnext⟩ := hi.exists_step
    apply exists_removes hij _ hj
    rw [hnext]
    exact (step_grants hgrant).2.2
  . intro key i j generation hij hi hj
    obtain ⟨op, hfence, hnext⟩ := hi.exists_step
    apply exists_removes hij _ hj
    rw [hnext]
    exact step_fences (sound_before hnew ops i) hfence
  . intro key key' i j generation generation' hij hi hj
    cases Nat.lt_or_gt_of_ne hij with
    | inl hlt => exact Nat.ne_of_lt (generation_lt hlt hi hj)
    | inr hgt => exact Nat.ne_of_gt (generation_lt hgt hj hi)

section Sample

def sampleKey : CallKey := ⟨⟨"session-1", "owner-open", "task-1", "turn-1", "stream-1"⟩, "call-1"⟩

example : (shardIndex sampleKey).val = 42 := by decide +kernel

def sampleSha256 : String := "aaaaaaaaaaaaaaaaaaaaaaaaaaaaaaaaaaaaaaaaaaaaaaaaaaaaaaaaaaaaaaaa"

def sampleRequest : CallRequest := ⟨sampleSha256, sampleSha256, "shell.exec", none⟩

def sampleTerminal : TerminalRecord := ⟨"exited", some 0, none, sampleSha256, 0, 0⟩

def emptyRegistry : Registry := ⟨.default, Sharded.empty, 0, 1⟩

def sampleOps : List Op :=
  [.begin sampleKey sampleRequest, .claimSpawn sampleKey sampleSha256,
    .complete sampleKey 1 sampleTerminal, .removeTerminal sampleKey,
    .begin sampleKey sampleRequest, .claimSpawn sampleKey sampleSha256]

set_option maxRecDepth 10000

theorem claimSpawn_granted_once_sample :
    Happens step emptyRegistry sampleOps (Grants sampleKey 1) 1
      ∧ Happens step emptyRegistry sampleOps (Grants sampleKey 2) 5
      ∧ ∃ k, 1 < k ∧ k < 5 ∧ Happens step emptyRegistry sampleOps (Removes sampleKey) k := by
  have hfirst : Happens step emptyRegistry sampleOps (Grants sampleKey 1) 1 :=
    ⟨_, _, ⟨rfl, rfl⟩, ⟨sampleSha256, rfl⟩, _, rfl⟩
  have hsecond : Happens step emptyRegistry sampleOps (Grants sampleKey 2) 5 :=
    ⟨_, _, ⟨rfl, rfl⟩, ⟨sampleSha256, rfl⟩, _, rfl⟩
  have hnew : Registry.new .default = .ok emptyRegistry := rfl
  exact ⟨hfirst, hsecond,
    (claimSpawn_granted_once hnew sampleOps).1 sampleKey 1 5 1 2 (by decide) hfirst hsecond⟩

end Sample

theorem settle_snapshot? {α : Type} {answer : Result α → Answer} {result : Result (α × Registry)}
    (herror : ∀ e, (answer (.error e)).snapshot? = none)
    (h : (settle registry answer result).2.snapshot? = some snapshot) :
    ∃ x registry', result = .ok (x, registry') ∧ (answer (.ok x)).snapshot? = some snapshot
      ∧ (settle registry answer result).1 = registry' := by
  apply exists_of_settle (P := fun out : Answer => out.snapshot? = some snapshot) _ h
  intro e
  rw [herror]
  simp

theorem mutate_snapshot?
    (h : (settle registry Answer.observed (registry.mutate key change)).2.snapshot? = some snapshot) :
    ∃ entry, (settle registry Answer.observed (registry.mutate key change)).1.get? key = some entry
      ∧ snapshot = entry.snapshot := by
  obtain ⟨_, registry', hmutate, hsnapshot, hsettle⟩ := settle_snapshot? (fun _ => rfl) h
  obtain ⟨entry, _, rfl, rfl⟩ := mutate_eq_ok hmutate
  cases hsnapshot
  rw [hsettle]
  exact ⟨_, get?_insert_self registry key _, rfl⟩

theorem step_snapshot? {op : Op} (hkey : op.key? = some key)
    (h : (registry.step op).2.snapshot? = some snapshot) :
    ∃ entry, (registry.step op).1.get? key = some entry ∧ snapshot = entry.snapshot := by
  cases op with
  | begin _ request =>
    cases hkey
    obtain ⟨_, registry', hbegin, hsnapshot, hsettle⟩ := settle_snapshot? (fun _ => rfl) h
    rw [step, hsettle]
    obtain ⟨entry, hget, rfl, rfl⟩ | ⟨_, _, rfl, rfl⟩ := begin_eq_ok hbegin
    . cases hsnapshot
      exact ⟨entry, hget, rfl⟩
    . cases hsnapshot
      exact ⟨_, get?_insert_self _ _ _, rfl⟩
  | claimSpawn _ requestSha256 =>
    cases hkey
    obtain ⟨_, registry', hclaim, hsnapshot, hsettle⟩ := settle_snapshot? (fun _ => rfl) h
    rw [step, hsettle]
    obtain ⟨entry, hget, hcases⟩ := claimSpawn_eq_ok hclaim
    obtain ⟨rfl, rfl⟩ | ⟨rfl, rfl⟩ | ⟨_, _, _, rfl, rfl, rfl⟩ := hcases
    . cases hsnapshot
      exact ⟨entry, hget, rfl⟩
    . cases hsnapshot
      exact ⟨entry, hget, rfl⟩
    . cases hsnapshot
      exact ⟨_, get?_insert_self _ _ _, rfl⟩
  | inhibitSpawn _ | requestCancel _ | markConnectionLost _ | markConnectionAttached _ =>
    cases hkey
    exact mutate_snapshot? h
  | snapshot _ =>
    cases hkey
    simp only [step, Registry.snapshot] at h ⊢
    cases hget : registry.get? key with
    | none =>
      rw [hget] at h
      cases h
    | some entry =>
      rw [hget] at h
      cases h
      exact ⟨entry, rfl, rfl⟩
  | rollbackAccept _ _ | recordPid _ _ _ | complete _ _ _ =>
    obtain ⟨_, _, _, hsnapshot, _⟩ := settle_snapshot? (fun _ => rfl) h
    cases hsnapshot
  | historyFrom _ _ | removeTerminal _ | cancelSignal _ => cases h
  | len => cases hkey

def ReportsNotStarted (key : CallKey) (op : Op) (out : Answer) : Prop :=
  op.key? = some key ∧ ∃ snapshot, out.snapshot? = some snapshot ∧ snapshot.state.isNotStarted = true

theorem has_isNotStarted_of_reports (hsound : (registry.step op).1.Sound)
    (h : ReportsNotStarted key op (registry.step op).2) :
    (registry.step op).1.Has key Entry.isNotStarted := by
  obtain ⟨hkey, snapshot, hsnapshot, hstate⟩ := h
  obtain ⟨entry, hget, rfl⟩ := step_snapshot? hkey hsnapshot
  exact ⟨entry, hget, (hsound key entry hget).isNotStarted_iff.mp hstate⟩

theorem has_isNotStarted_before {i : Nat} (hij : i ≤ j)
    (h : (before step registry ops i).Has key Entry.isNotStarted) :
    (before step registry ops j).Has key Entry.isNotStarted := by
  apply before_of_le hij h
  intro _ op _ _ _ hkept
  exact has_isNotStarted_step hkept

theorem not_started_final {limits : RegistryLimits} {registry : Registry}
    (hnew : Registry.new limits = .ok registry) (ops : List Op) {key : CallKey} {i j : Nat}
    (hij : i < j) (hi : Happens step registry ops (ReportsNotStarted key) i) :
    (∃ entry, (before step registry ops j).get? key = some entry
      ∧ entry.snapshot.state.isNotStarted = true)
    ∧ (∀ op out snapshot, At step registry ops j op out → op.key? = some key
      → out.snapshot? = some snapshot → snapshot.state.isNotStarted = true)
    ∧ ∀ generation, ¬ Happens step registry ops (Grants key generation) j := by
  obtain ⟨op, hreports, hnext⟩ := hi.exists_step
  have hclosed : (before step registry ops j).Has key Entry.isNotStarted := by
    apply has_isNotStarted_before hij
    rw [hnext]
    apply has_isNotStarted_of_reports _ hreports
    rw [← hnext]
    exact sound_before hnew ops (i + 1)
  refine ⟨?_, ?_, ?_⟩
  . obtain ⟨entry, hget, hentry⟩ := hclosed
    exact ⟨entry, hget, ((sound_before hnew ops j) key entry hget).isNotStarted_iff.mpr hentry⟩
  . rintro op out snapshot ⟨hop, rfl⟩ hkey hsnapshot
    obtain ⟨entry, hget, rfl⟩ := step_snapshot? hkey hsnapshot
    obtain ⟨entry', hget', hentry⟩ := has_isNotStarted_step hclosed
    rw [hget] at hget'
    cases hget'
    have hsound := sound_before hnew ops (j + 1)
    rw [before_succ hop] at hsound
    exact (hsound key entry hget).isNotStarted_iff.mpr hentry
  . intro generation hgrant
    obtain ⟨op, hgrant, _⟩ := hgrant.exists_step
    apply (step_grants hgrant).2.1
    obtain ⟨entry, hget, hentry⟩ := hclosed
    exact ⟨entry, hget, hentry.isFenced⟩

def disconnectedOps : List Op :=
  [.begin sampleKey sampleRequest, .markConnectionLost sampleKey,
    .markConnectionAttached sampleKey, .claimSpawn sampleKey sampleSha256]

set_option maxRecDepth 10000 in
theorem not_started_final_disconnected :
    Happens step emptyRegistry disconnectedOps (ReportsNotStarted sampleKey) 1
      ∧ ∀ generation, ¬ Happens step emptyRegistry disconnectedOps (Grants sampleKey generation) 3 := by
  have hreports : Happens step emptyRegistry disconnectedOps (ReportsNotStarted sampleKey) 1 :=
    ⟨_, _, ⟨rfl, rfl⟩, rfl, _, rfl, rfl⟩
  have hnew : Registry.new .default = .ok emptyRegistry := rfl
  exact ⟨hreports, (not_started_final hnew disconnectedOps (by decide) hreports).2.2⟩

end Registry

end CallRegistry
