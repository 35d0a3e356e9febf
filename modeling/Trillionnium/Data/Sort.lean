import Mathlib

namespace List

variable {α : Type*} {f : α → Nat} {xs ys : List α}

theorem eq_of_key_eq (h : ys.Pairwise (fun a b => f a < f b)) {a b : α} (ha : a ∈ ys) (hb : b ∈ ys)
    (heq : f a = f b) : a = b := by
  induction ys with
  | nil => cases ha
  | cons y ys ih =>
    rw [pairwise_cons] at h
    cases mem_cons.mp ha with
    | inl ha =>
      cases mem_cons.mp hb with
      | inl hb => rw [ha, hb]
      | inr hb =>
        have := h.1 b hb
        rw [ha] at heq
        omega
    | inr ha =>
      cases mem_cons.mp hb with
      | inl hb =>
        have := h.1 a ha
        rw [hb] at heq
        omega
      | inr hb => exact ih h.2 ha hb

theorem insertionSort_eq_of_perm (hperm : xs.Perm ys) (hsorted : ys.Pairwise (fun a b => f a < f b)) :
    xs.insertionSort (fun a b => f a ≤ f b) = ys := by
  have htotal : Std.Total (fun a b => f a ≤ f b) := ⟨fun a b => Nat.le_total (f a) (f b)⟩
  have htrans : IsTrans α (fun a b => f a ≤ f b) := ⟨fun _ _ _ => Nat.le_trans⟩
  have hsort := (perm_insertionSort (fun a b => f a ≤ f b) xs).trans hperm
  apply Perm.eq_of_pairwise _ (pairwise_insertionSort _ xs) (hsorted.imp Nat.le_of_lt) hsort
  intro a b ha hb hab hba
  exact eq_of_key_eq hsorted (hsort.mem_iff.mp ha) hb (Nat.le_antisymm hab hba)

end List
