import Mathlib

namespace List

variable {α : Type} {l : List α} {a : α}

theorem forall_mem_concat {P : α → Prop} (h : ∀ x ∈ l, P x) (ha : P a) : ∀ x ∈ l ++ [a], P x :=
  forall_mem_append.mpr ⟨h, forall_mem_singleton.mpr ha⟩

theorem pairwise_concat {R : α → α → Prop} (h : l.Pairwise R) (ha : ∀ x ∈ l, R x a) :
    (l ++ [a]).Pairwise R := by
  rw [pairwise_append]
  refine ⟨h, pairwise_singleton _ _, ?_⟩
  intro x hx
  exact forall_mem_singleton.mpr (ha x hx)

theorem concat_eq_append_cons {x : α} {before after : List α} (h : l ++ [a] = before ++ x :: after) :
    (l = before ∧ a = x) ∨ ∃ after', l = before ++ x :: after' := by
  rcases eq_nil_or_concat after with rfl | ⟨after', y, rfl⟩
  . obtain ⟨hl, ha⟩ := append_inj' h rfl
    exact .inl ⟨hl, (cons.inj ha).1⟩
  . refine .inr ⟨after', ?_⟩
    rw [concat_eq_append, ← cons_append, ← append_assoc] at h
    exact (append_inj' h rfl).1

end List
