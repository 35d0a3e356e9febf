import Mathlib

/-! Order statistics, compared through how many elements of each list lie below a bound. -/

namespace List

variable {α : Type} [LinearOrder α] {l : List α} {i : Nat}

theorem SortedLE.lt_countP (h : l.SortedLE) (hi : i < l.length) : i < l.countP (· ≤ l[i]) := by
  have htake : (l.take (i + 1)).countP (· ≤ l[i]) = i + 1 := by
    rw [countP_eq_length.mpr, length_take, Nat.min_eq_left hi]
    intro x hx
    obtain ⟨k, hk, rfl⟩ := mem_take_iff_getElem.mp hx
    rw [decide_eq_true_iff]
    exact h.getElem_le_getElem_of_le (by omega)
  have hle := (take_sublist (i + 1) l).countP_le (p := (· ≤ l[i]))
  omega

theorem SortedLE.countP_le (h : l.SortedLE) (hi : i < l.length) (ha : a < l[i]) :
    l.countP (· ≤ a) ≤ i := by
  have hdrop : (l.drop i).countP (· ≤ a) = 0 := by
    rw [countP_eq_zero]
    intro x hx
    obtain ⟨k, hk, rfl⟩ := mem_drop_iff_getElem.mp hx
    have hle : l[i] ≤ l[i + k] := h.getElem_le_getElem_of_le (Nat.le_add_right i k)
    rw [decide_eq_true_iff]
    exact not_le_of_gt (lt_of_lt_of_le ha hle)
  calc l.countP (· ≤ a)
    _ = (l.take i ++ l.drop i).countP (· ≤ a) := by rw [take_append_drop]
    _ = (l.take i).countP (· ≤ a) := by rw [countP_append, hdrop, Nat.add_zero]
    _ ≤ (l.take i).length := countP_le_length
    _ ≤ i := length_take_le i l

theorem le_of_getElem?_insertionSort {l : List β} {f g : β → α} (h : ∀ x ∈ l, f x ≤ g x)
    (hij : i ≤ j) (ha : ((l.map f).insertionSort (· ≤ ·))[i]? = some a)
    (hb : ((l.map g).insertionSort (· ≤ ·))[j]? = some b) : a ≤ b := by
  obtain ⟨hi, rfl⟩ := getElem?_eq_some_iff.mp ha
  obtain ⟨hj, rfl⟩ := getElem?_eq_some_iff.mp hb
  by_contra hlt
  have hbelow := sortedLE_insertionSort.lt_countP hj
  have habove := sortedLE_insertionSort.countP_le hi (lt_of_not_ge hlt)
  rw [(perm_insertionSort _ _).countP_eq, countP_map] at hbelow habove
  refine absurd (hbelow.trans_le ((countP_mono_left ?_).trans habove)) (Nat.not_lt.mpr hij)
  intro x hx hle
  rw [Function.comp_apply, decide_eq_true_iff] at hle ⊢
  exact (h x hx).trans hle

end List
