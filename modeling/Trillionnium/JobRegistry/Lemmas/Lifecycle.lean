import Trillionnium.JobRegistry.Lemmas.Step

/-!
The life of an entry of the job registry: it is granted one spawn, an uncertain entry takes no
records, and a terminal record stays.
-/

namespace JobRegistry

namespace DispatchState

variable {key : JobKey} {op : Op} {dispatch dispatch' : DispatchState}

theorem Moves.ne_open (h : Moves key op dispatch dispatch') (hne : dispatch ≠ .accepted false) :
    dispatch' ≠ .accepted false := by
  cases h with
  | same => exact hne
  | started _ _ _ | completed _ _ _ _ => simp
  | uncertain =>
    cases dispatch with
    | accepted _ | claimed _ _ | running _ _ _ _ | terminal _ _ => simp [markUncertain]

theorem isUncertain_markUncertain (dispatch : DispatchState) :
    dispatch.markUncertain.isUncertain = true := by
  cases dispatch with
  | accepted _ | claimed _ _ | running _ _ _ _ | terminal _ _ => rfl

theorem Moves.isUncertain (h : Moves key op dispatch dispatch')
    (huncertain : dispatch.isUncertain = true) : dispatch'.isUncertain = true := by
  cases h with
  | same => exact huncertain
  | started generation pid pty => cases huncertain
  | uncertain => apply isUncertain_markUncertain
  | completed hop pid pty restartUncertain => rfl

theorem Moves.terminal {terminal : JobTerminal} (h : Moves key op dispatch dispatch')
    (hdispatch : dispatch = .terminal generation terminal) :
    dispatch' = .terminal generation terminal := by
  subst hdispatch
  cases h with
  | same | uncertain => rfl

theorem Moves.of_uncertain (h : Moves key op (.running generation pid pty true) dispatch') :
    dispatch' = .running generation pid pty true
      ∨ ∃ terminal, op = .complete key generation terminal
        ∧ dispatch' = .terminal generation terminal := by
  cases h with
  | same | uncertain => exact .inl rfl
  | completed hop => exact .inr ⟨_, hop, rfl⟩

end DispatchState

namespace Registry

open Machine

def Has (key : JobKey) (P : DispatchState → Prop) (registry : Registry) : Prop :=
  ∃ entry, registry.get? key = some entry ∧ P entry.dispatch

variable {registry : Registry} {key : JobKey} {P : DispatchState → Prop}

theorem has_of_dispatch? (h : registry.dispatch? key = some dispatch) (hP : P dispatch) :
    registry.Has key P := by
  obtain ⟨entry, hget, rfl⟩ := Option.map_eq_some_iff.mp h
  exact ⟨entry, hget, hP⟩

theorem Has.evolution (h : registry.Has key P) (op : Op) :
    ∃ dispatch, P dispatch
      ∧ Evolution key op (registry.step op).2 (some dispatch) ((registry.step op).1.dispatch? key) := by
  obtain ⟨entry, hget, hP⟩ := h
  refine ⟨entry.dispatch, hP, ?_⟩
  have h := registry.step_evolution op key
  rw [dispatch?_eq hget] at h
  exact h

theorem has_step (hopen : ¬ P (.accepted false))
    (hmoves : ∀ dispatch dispatch', DispatchState.Moves key op dispatch dispatch'
      → P dispatch → P dispatch') (h : registry.Has key P) :
    (registry.step op).1.Has key P ∨ Removes key op (registry.step op).2 := by
  obtain ⟨dispatch, hP, h⟩ := h.evolution op
  generalize hafter : (registry.step op).1.dispatch? key = after at h
  cases h with
  | same _ => exact .inl (has_of_dispatch? hafter hP)
  | moved h _ => exact .inl (has_of_dispatch? hafter (hmoves _ _ h hP))
  | removed hremove _ => exact .inr hremove
  | granted _ => exact absurd hP hopen

theorem step_grants (h : Grants key generation op (registry.step op).2) :
    registry.Has key (· = .accepted false)
      ∧ (registry.step op).1.Has key (· ≠ .accepted false) := by
  have hevolution := registry.step_evolution op key
  generalize hbefore : registry.dispatch? key = before at hevolution
  generalize hafter : (registry.step op).1.dispatch? key = after at hevolution
  cases hevolution with
  | same hgrant | moved _ hgrant | created hgrant => exact absurd h (hgrant generation)
  | removed hremove _ => exact absurd h (hremove.not_grants generation)
  | granted _ => exact ⟨has_of_dispatch? hbefore rfl, has_of_dispatch? hafter (by simp)⟩

theorem has_before {ops : List Op} (hopen : ¬ P (.accepted false))
    (hmoves : ∀ op dispatch dispatch', DispatchState.Moves key op dispatch dispatch'
      → P dispatch → P dispatch') {i : Nat} (hij : i ≤ j)
    (hi : (before step registry ops i).Has key P)
    (hkept : ∀ k, i ≤ k → k < j → ¬ Happens step registry ops (Removes key) k) :
    (before step registry ops j).Has key P := by
  apply before_of_le hij hi
  intro k op hik hkj hop hhas
  cases has_step hopen (hmoves op) hhas with
  | inl hhas' => exact hhas'
  | inr hremove => exact absurd ⟨op, _, ⟨hop, rfl⟩, hremove⟩ (hkept k hik hkj)

end Registry

def Op.Records (key : JobKey) : Op → Prop
  | .recordStarted key' _ _ _ | .recordOutput key' _ _ _ _ | .recordInput key' _ _
  | .recordResize key' _ _ | .closeStdin key' | .requestKill key' _ => key' = key
  | _ => False

theorem requireLive_of_isUncertain {entry : Entry} (h : entry.dispatch.isUncertain = true) :
    ∃ e, requireLive entry = .error e := by
  unfold requireLive
  split
  next hdispatch =>
    rw [hdispatch] at h
    cases h
  . exact ⟨_, rfl⟩
  . exact ⟨_, rfl⟩
  . exact ⟨_, rfl⟩
  . exact ⟨_, rfl⟩

namespace Registry

variable {registry : Registry} {key : JobKey} {entry : Entry}

section

variable (hget : registry.get? key = some entry) (h : entry.dispatch.isUncertain = true)
include hget h

theorem recordStarted_of_isUncertain :
    (∃ e, registry.recordStarted key generation pid pty = .error e)
      ∨ (entry.dispatch = .running generation pid pty true
        ∧ registry.recordStarted key generation pid pty
            = .ok (.idempotent, registry.insert key entry)) := by
  unfold recordStarted
  split
  . exact .inl ⟨_, rfl⟩
  . cases hdispatch : entry.dispatch with
    | accepted _ | terminal _ _ =>
      left
      apply mutate_of_error hget
      simp [hdispatch]
    | claimed expected restartUncertain =>
      rw [hdispatch] at h
      simp only [DispatchState.isUncertain] at h
      left
      apply mutate_of_error hget
      simp [hdispatch, h]
    | running expected existingPid existingPty restartUncertain =>
      rw [hdispatch] at h
      simp only [DispatchState.isUncertain] at h
      by_cases hexact : expected = generation ∧ existingPid = pid ∧ existingPty = pty
      . refine .inr ⟨?_, mutate_of_ok hget ?_⟩
        . rw [hexact.1, hexact.2.1, hexact.2.2, h]
        . simp [hdispatch, hexact]
      . left
        apply mutate_of_error hget
        simp [hdispatch, if_neg hexact]

theorem recordOutput_of_isUncertain :
    ∃ e, registry.recordOutput key generation stream bytes sha256 = .error e := by
  unfold recordOutput
  cases requireText stream "stream" 64 false with
  | error e => exact ⟨e, rfl⟩
  | ok _ =>
    cases requireSha256 sha256 "sha256" with
    | error e => exact ⟨e, rfl⟩
    | ok _ =>
      simp only [Except.ok_bind]
      apply mutate_of_error hget
      cases hdispatch : entry.dispatch with
      | accepted _ | claimed _ _ | terminal _ _ => simp
      | running expected pid pty restartUncertain =>
        rw [hdispatch] at h
        simp only [DispatchState.isUncertain] at h
        simp [h]

theorem recordInput_of_isUncertain : ∃ e, registry.recordInput key bytes sha256 = .error e := by
  obtain ⟨e, hlive⟩ := requireLive_of_isUncertain h
  unfold recordInput
  cases requireSha256 sha256 "sha256" with
  | error e => exact ⟨e, rfl⟩
  | ok _ =>
    apply mutate_of_error hget
    simp [hlive]

theorem recordResize_of_isUncertain : ∃ e, registry.recordResize key rows cols = .error e := by
  unfold recordResize
  split
  . exact ⟨_, rfl⟩
  . apply mutate_of_error hget
    cases hdispatch : entry.dispatch with
    | accepted _ | claimed _ _ | terminal _ _ => simp
    | running expected pid pty restartUncertain =>
      rw [hdispatch] at h
      simp only [DispatchState.isUncertain] at h
      subst h
      cases pty with
      | true | false => simp

theorem closeStdin_of_isUncertain : ∃ e, registry.closeStdin key = .error e := by
  obtain ⟨e, hlive⟩ := requireLive_of_isUncertain h
  apply mutate_of_error hget
  simp [hlive]

theorem requestKill_of_isUncertain {signal : Int} : ∃ e, registry.requestKill key signal = .error e := by
  obtain ⟨e, hlive⟩ := requireLive_of_isUncertain h
  unfold requestKill
  split
  . exact ⟨_, rfl⟩
  . apply mutate_of_error hget
    simp [hlive]

end

open Machine

def Refuses (registry : Registry) (key : JobKey) (op : Op) : Prop :=
  (registry.step op).1.get? key = registry.get? key
    ∧ ((∃ e, (registry.step op).2.error? = some e)
      ∨ ∃ generation pid pty, op = .recordStarted key generation pid pty
        ∧ (registry.step op).2 = .mutated (.ok .idempotent)
        ∧ registry.Has key (· = .running generation pid pty true))

theorem refuses_of_error {α : Type} {answer : Result α → Answer} {result : Result (α × Registry)}
    (hstep : registry.step op = settle registry answer result)
    (hanswer : ∀ e, (answer (.error e)).error? = some e) (h : ∃ e, result = .error e) :
    registry.Refuses key op := by
  obtain ⟨e, h⟩ := h
  rw [h] at hstep
  unfold Refuses
  rw [hstep]
  exact ⟨rfl, .inl ⟨e, hanswer e⟩⟩

theorem refuses_of_isUncertain {op : Op} (hop : op.Records key)
    (h : registry.Has key (fun dispatch => dispatch.isUncertain = true)) :
    registry.Refuses key op := by
  obtain ⟨entry, hget, huncertain⟩ := h
  cases op with
  | recordStarted key' generation pid pty =>
    cases hop
    cases recordStarted_of_isUncertain hget huncertain with
    | inl herror => exact refuses_of_error rfl (fun _ => rfl) herror
    | inr hrepeat =>
      obtain ⟨hdispatch, hok⟩ := hrepeat
      unfold Refuses
      rw [step, hok]
      refine ⟨?_, .inr ⟨generation, pid, pty, rfl, rfl, entry, hget, hdispatch⟩⟩
      rw [hget]
      apply get?_insert_self
  | recordOutput key' generation stream bytes sha256 =>
    cases hop
    exact refuses_of_error rfl (fun _ => rfl) (recordOutput_of_isUncertain hget huncertain)
  | recordInput key' bytes sha256 =>
    cases hop
    exact refuses_of_error rfl (fun _ => rfl) (recordInput_of_isUncertain hget huncertain)
  | recordResize key' rows cols =>
    cases hop
    exact refuses_of_error rfl (fun _ => rfl) (recordResize_of_isUncertain hget huncertain)
  | closeStdin key' =>
    cases hop
    exact refuses_of_error rfl (fun _ => rfl) (closeStdin_of_isUncertain hget huncertain)
  | requestKill key' signal =>
    cases hop
    exact refuses_of_error rfl (fun _ => rfl) (requestKill_of_isUncertain hget huncertain)
  | begin _ _ | rollbackAccept _ _ | claimSpawn _ _ | attach _ _ | detach _ _
  | markRestartUncertain _ | complete _ _ _ | snapshot _ | historyFrom _ _ | removeTerminal _
  | len => cases hop

theorem has_of_markRestartUncertain {snapshot : JobSnapshot}
    (h : (registry.step (.markRestartUncertain key)).2 = .observed (.ok snapshot)) :
    (registry.step (.markRestartUncertain key)).1.Has key
      (fun dispatch => dispatch.isUncertain = true) := by
  rw [step] at h ⊢
  obtain ⟨_, _, hresult, hnext⟩ := settle_eq_ok (by simp) h
  obtain ⟨entry, entry', _, hchange, rfl⟩ := mutate_eq_ok hresult
  rw [hnext]
  refine ⟨entry', get?_insert_self _ _ _, ?_⟩
  split at hchange
  next huncertain =>
    cases hchange
    exact huncertain
  . cases hchange
    apply DispatchState.isUncertain_markUncertain

theorem has_of_complete {terminal : JobTerminal} {outcome : MutationOutcome}
    (h : (registry.step (.complete key generation terminal)).2 = .mutated (.ok outcome)) :
    (registry.step (.complete key generation terminal)).1.Has key
      (· = .terminal generation terminal) := by
  rw [step] at h ⊢
  obtain ⟨_, _, hresult, hnext⟩ := settle_eq_ok (by simp) h
  obtain ⟨_, _, hmutate⟩ := Except.bind_eq_ok.mp hresult
  obtain ⟨entry, entry', _, hchange, rfl⟩ := mutate_eq_ok hmutate
  rw [hnext]
  refine ⟨entry', get?_insert_self _ _ _, ?_⟩
  split at hchange
  . split at hchange
    . cases hchange
      rfl
    . cases hchange
  next hdispatch =>
    split at hchange
    next hexact =>
      cases hchange
      rw [hdispatch, hexact.1, hexact.2]
    . cases hchange
  . cases hchange
  . cases hchange

theorem complete_of_terminal {terminal : JobTerminal}
    (h : registry.Has key (· = .terminal generation terminal))
    (hne : ¬ (generation' = generation ∧ terminal' = terminal)) :
    ∃ e, (registry.step (.complete key generation' terminal')).2 = .mutated (.error e) := by
  obtain ⟨entry, hget, hdispatch⟩ := h
  have herror : ∃ e, registry.complete key generation' terminal' = .error e := by
    unfold complete
    cases validateTerminal terminal' with
    | error e => exact ⟨e, rfl⟩
    | ok _ =>
      apply mutate_of_error hget
      rw [hdispatch]
      refine ⟨.terminalConflict, if_neg ?_⟩
      rintro ⟨hgeneration, hterminal⟩
      exact hne ⟨hgeneration.symm, hterminal.symm⟩
  obtain ⟨e, herror⟩ := herror
  refine ⟨e, ?_⟩
  rw [step, herror]
  rfl

theorem has_uncertain_running_step (h : registry.Has key (· = .running generation pid pty true)) :
    (registry.step op).1.Has key (· = .running generation pid pty true)
      ∨ ∃ terminal, op = .complete key generation terminal
        ∧ (registry.step op).1.Has key (· = .terminal generation terminal) := by
  obtain ⟨_, rfl, h⟩ := h.evolution op
  generalize hafter : (registry.step op).1.dispatch? key = after at h
  cases h with
  | same _ => exact .inl (has_of_dispatch? hafter rfl)
  | moved h _ =>
    obtain rfl | ⟨terminal, hop, rfl⟩ := h.of_uncertain
    . exact .inl (has_of_dispatch? hafter rfl)
    . exact .inr ⟨terminal, hop, has_of_dispatch? hafter rfl⟩
  | removed _ hremovable => simp at hremovable

variable {ops : List Op}

theorem not_grants_of_isUncertain
    (hj : (before step registry ops j).Has key (fun dispatch => dispatch.isUncertain = true)) :
    ¬ Happens step registry ops (Grants key generation) j := by
  intro hgrant
  obtain ⟨op, hgrant, _⟩ := hgrant.exists_step
  obtain ⟨entry, hget, hopen⟩ := (step_grants hgrant).1
  obtain ⟨entry', hget', huncertain⟩ := hj
  rw [hget] at hget'
  cases hget'
  rw [hopen] at huncertain
  cases huncertain

theorem lifecycle (registry : Registry) (ops : List Op) (key : JobKey) :
    (∀ i j generation generation', i < j
      → Happens step registry ops (Grants key generation) i
      → Happens step registry ops (Grants key generation') j
      → ∃ k, i < k ∧ k < j ∧ Happens step registry ops (Removes key) k)
    ∧ (∀ i j snapshot, i < j
      → At step registry ops i (.markRestartUncertain key) (.observed (.ok snapshot))
      → (∀ k, i < k → k < j → ¬ Happens step registry ops (Removes key) k)
      → (∀ generation, ¬ Happens step registry ops (Grants key generation) j)
        ∧ ∀ op, ops[j]? = some op → op.Records key
          → (before step registry ops j).Refuses key op)
    ∧ (∀ i j generation terminal outcome, i < j
      → At step registry ops i (.complete key generation terminal) (.mutated (.ok outcome))
      → (∀ k, i < k → k < j → ¬ Happens step registry ops (Removes key) k)
      → (before step registry ops j).Has key (· = .terminal generation terminal)
        ∧ ∀ generation' terminal' out, ¬ (generation' = generation ∧ terminal' = terminal)
          → At step registry ops j (.complete key generation' terminal') out
          → ∃ e, out = .mutated (.error e))
    ∧ (∀ j op out generation pid pty, At step registry ops j op out
      → (before step registry ops j).Has key (· = .running generation pid pty true)
      → (before step registry ops (j + 1)).Has key (· = .running generation pid pty true)
        ∨ ∃ terminal, op = .complete key generation terminal
          ∧ (before step registry ops (j + 1)).Has key (· = .terminal generation terminal)) := by
  refine ⟨?_, ?_, ?_, ?_⟩
  . intro i j generation generation' hij hi hj
    apply Classical.byContradiction
    intro hkept
    obtain ⟨op, hgrant, hnext⟩ := hi.exists_step
    obtain ⟨op', hgrant', _⟩ := hj.exists_step
    have hclosed := (step_grants hgrant).2
    rw [← hnext] at hclosed
    have hclosed := has_before (fun h => h rfl) (fun _ _ _ hmove => hmove.ne_open) hij hclosed
      (fun k hik hkj hremove => hkept ⟨k, hik, hkj, hremove⟩)
    obtain ⟨entry, hget, hne⟩ := hclosed
    obtain ⟨entry', hget', hopen⟩ := (step_grants hgrant').1
    rw [hget] at hget'
    cases hget'
    exact hne hopen
  . intro i j snapshot hij hi hkept
    have hmarked := has_of_markRestartUncertain hi.2
    rw [← before_succ hi.1] at hmarked
    have huncertain := has_before (by simp [DispatchState.isUncertain])
      (fun _ _ _ hmove => hmove.isUncertain) hij hmarked (fun k hik => hkept k hik)
    refine ⟨fun generation => not_grants_of_isUncertain huncertain, ?_⟩
    intro op _ hrecords
    exact refuses_of_isUncertain hrecords huncertain
  . intro i j generation terminal outcome hij hi hkept
    have hcompleted := has_of_complete hi.2
    rw [← before_succ hi.1] at hcompleted
    have hterminal := has_before (by simp) (fun _ _ _ hmove => hmove.terminal) hij hcompleted
      (fun k hik => hkept k hik)
    refine ⟨hterminal, ?_⟩
    intro generation' terminal' out hne hj
    rw [← hj.2]
    exact complete_of_terminal hterminal hne
  . intro j op out generation pid pty hj h
    rw [before_succ hj.1]
    exact has_uncertain_running_step h

section Sample

def sampleKey : JobKey := ⟨⟨"session-1", "owner-open", "task-1", "turn-1", "stream-1"⟩, "job-1"⟩

example : (shardIndex sampleKey).val = 14 := by decide +kernel

def sampleSha256 : String := "aaaaaaaaaaaaaaaaaaaaaaaaaaaaaaaaaaaaaaaaaaaaaaaaaaaaaaaaaaaaaaaa"

def sampleRequest : JobRequest := ⟨sampleSha256, sampleSha256, "shell.exec", "interactive", none⟩

def sampleTerminal : JobTerminal := ⟨"exited", some 0, none, sampleSha256, 0, 0⟩

def emptyRegistry : Registry := ⟨.default, Sharded.empty, 0, 1⟩

def sampleOps : List Op :=
  [.begin sampleKey sampleRequest, .claimSpawn sampleKey sampleSha256,
    .recordStarted sampleKey 1 4242 true, .markRestartUncertain sampleKey,
    .recordStarted sampleKey 1 4242 true, .requestKill sampleKey 15,
    .complete sampleKey 1 sampleTerminal, .complete sampleKey 2 sampleTerminal]

set_option maxRecDepth 10000

theorem lifecycle_sample :
    (before step emptyRegistry sampleOps 5).Refuses sampleKey (.requestKill sampleKey 15)
      ∧ ∃ e, (step (before step emptyRegistry sampleOps 7)
          (.complete sampleKey 2 sampleTerminal)).2 = .mutated (.error e) := by
  obtain ⟨_, hmarked, hcompleted, _⟩ := lifecycle emptyRegistry sampleOps sampleKey
  refine ⟨?_, ?_⟩
  . refine (hmarked 3 5 _ (by decide) ⟨rfl, rfl⟩ ?_).2 _ rfl rfl
    intro k hk hk'
    obtain rfl : k = 4 := by omega
    rintro ⟨op, out, ⟨hop, _⟩, hremove, _⟩
    cases hop
    simp at hremove
  . refine (hcompleted 6 7 1 sampleTerminal _ (by decide) ⟨rfl, rfl⟩ ?_).2 2 sampleTerminal _
      (by decide) ⟨rfl, rfl⟩
    intro k hk hk'
    omega

end Sample

end Registry

end JobRegistry
