import Mathlib

/-!
Numbered records of which only the newest are retained, and visits that read them page by page.
-/

namespace Retained

variable {α ε π : Type} {seq : α → Nat} {next : Nat} {l l' : List α}

def push (bound : Nat) (l : List α) (x : α) : List α :=
  (if l.length = bound then l.tail else l) ++ [x]

theorem push_suffix {bound : Nat} {x : α} : push bound l x <:+ l ++ [x] := by
  unfold push
  split
  . exact (List.suffix_append_inj_of_length_eq rfl).mpr ⟨List.tail_suffix l, rfl⟩
  . exact List.suffix_refl _

/-- The numbers of the records follow each other, and `next` follows the last one. -/
def Consecutive (seq : α → Nat) (next : Nat) (l : List α) : Prop :=
  ∀ i x, l[i]? = some x → seq x + l.length = next + i

theorem consecutive_nil : Consecutive seq next [] := by
  intro i x h
  cases h

namespace Consecutive

section

variable (h : Consecutive seq next l)
include h

theorem suffix (hl : l' <:+ l) : Consecutive seq next l' := by
  obtain ⟨before, rfl⟩ := hl
  intro i x hx
  have hseq := h (before.length + i) x (by rwa [List.getElem?_append_right (by omega), Nat.add_sub_cancel_left])
  rw [List.length_append] at hseq
  omega

theorem concat (hx : seq x = next) : Consecutive seq (next + 1) (l ++ [x]) := by
  intro i y hy
  rw [List.length_append, List.length_singleton]
  cases Nat.lt_or_ge i l.length with
  | inl hlt =>
    rw [List.getElem?_append_left hlt] at hy
    have hseq := h i y hy
    omega
  | inr hge =>
    rw [List.getElem?_append_right hge, List.getElem?_singleton] at hy
    split at hy
    . cases hy
      omega
    . cases hy

theorem filter_eq (c : Nat) : l.filter (fun x => c ≤ seq x) = l.drop (c + l.length - next) := by
  induction l with
  | nil => rw [List.drop_nil, List.filter_nil]
  | cons x l ih =>
    have hseq := h 0 x rfl
    have hrest := ih (h.suffix (List.suffix_cons x l))
    rw [List.length_cons] at hseq ⊢
    by_cases hx : c ≤ seq x
    . rw [List.filter_cons_of_pos (by simpa using hx), hrest]
      have hrest : c + l.length - next = 0 := by omega
      have hall : c + (l.length + 1) - next = 0 := by omega
      rw [hrest, hall]
      rfl
    . rw [List.filter_cons_of_neg (by simpa using hx), hrest]
      have hdrop : c + (l.length + 1) - next = c + l.length - next + 1 := by omega
      rw [hdrop, List.drop_succ_cons]

theorem exists_le_iff (hc : next ≤ c + l.length) : (∃ x ∈ l, c ≤ seq x) ↔ c < next := by
  constructor
  . rintro ⟨x, hx, hle⟩
    obtain ⟨i, hi⟩ := List.getElem?_of_mem hx
    have hseq := h i x hi
    have hlt : i < l.length := (List.getElem?_eq_some_iff.mp hi).1
    omega
  . intro hlt
    have hpos : c + l.length - next < l.length := by omega
    have hseq := h _ _ (List.getElem?_eq_getElem hpos)
    exact ⟨_, List.getElem_mem hpos, by omega⟩

theorem seq_of_getLast? (hx : ((l.filter (fun x => c ≤ seq x)).take k).getLast? = some x) :
    seq x + 1 = max c (next - l.length) + ((l.filter (fun x => c ≤ seq x)).take k).length := by
  rw [h.filter_eq, List.getLast?_eq_getElem?] at hx
  have hlt : _ < _ := (List.getElem?_eq_some_iff.mp hx).1
  rw [List.getElem?_take_of_lt, List.getElem?_drop] at hx
  . have hseq := h _ _ hx
    rw [h.filter_eq]
    simp only [List.length_take, List.length_drop] at hseq hlt ⊢
    omega
  . simp only [List.length_take, List.length_drop] at hlt ⊢
    omega

end

end Consecutive

/-- What a page says that was read at the number `c`. -/
structure Serves (seq : α → Nat) (next : Nat) (l : List α) (c : Nat) (records : List α)
    (cursor : Nat) (more : Bool) : Prop where
  records_eq : ∃ k, 0 < k ∧ records = (l.filter (fun x => c ≤ seq x)).take k
  cursor_eq : cursor = max c (next - l.length) + records.length
  more_eq : more = decide (cursor < next)

theorem Serves.append_filter (h : Consecutive seq next l) (hpage : Serves seq next l c r cursor more) :
    r ++ l.filter (fun x => cursor ≤ seq x) = l.filter (fun x => c ≤ seq x) := by
  obtain ⟨k, _, hr⟩ := hpage.records_eq
  have hcursor := hpage.cursor_eq
  rw [h.filter_eq] at hr ⊢
  rw [h.filter_eq]
  have hlength := congrArg List.length hr
  simp only [List.length_take, List.length_drop] at hlength
  conv => rhs; rw [← List.take_append_drop k (l.drop _), ← hr, List.drop_drop]
  congr 1
  by_cases hk : k ≤ l.length - (c + l.length - next)
  . congr 1
    omega
  . rw [List.drop_eq_nil_of_le (by omega), List.drop_eq_nil_of_le (by omega)]

def visit (fetch : Nat → Nat → Except ε π) (cursor : π → Nat) (more : π → Bool) :
    Nat → Nat → Option (List π)
  | 0, _ => none
  | rounds + 1, c =>
    match fetch rounds c with
    | .error _ => none
    | .ok page =>
      if more page then
        (visit fetch cursor more rounds (cursor page)).map (page :: ·)
      else
        some [page]

theorem Consecutive.visit_eq {fetch : Nat → Nat → Except ε π} {records : π → List α}
    {cursor : π → Nat} {more : π → Bool} {low : Nat} (h : Consecutive seq next l)
    (hfetch : ∀ i c, low ≤ c → c ≤ next → ∃ page, fetch i c = .ok page
      ∧ Serves seq next l c (records page) (cursor page) (more page))
    (rounds : Nat) {c : Nat} (hlow : low ≤ c) (hnext : c ≤ next)
    (hrounds : (l.filter (fun x => c ≤ seq x)).length < rounds) :
    ∃ pages, visit fetch cursor more rounds c = some pages
      ∧ pages.flatMap records = l.filter (fun x => c ≤ seq x) := by
  induction rounds generalizing c with
  | zero => omega
  | succ rounds ih =>
    obtain ⟨page, hpage, hserves⟩ := hfetch rounds c hlow hnext
    have hsplit := hserves.append_filter h
    have hlength := congrArg List.length hsplit
    rw [List.length_append] at hlength
    have hcursor := hserves.cursor_eq
    unfold visit
    rw [hpage]
    cases hmore : more page with
    | true =>
      have hlt : cursor page < next := by
        rw [hserves.more_eq] at hmore
        exact of_decide_eq_true hmore
      have hpos : 0 < (records page).length := by
        obtain ⟨k, hk, hr⟩ := hserves.records_eq
        rw [h.filter_eq] at hr
        rw [hr, List.length_take, List.length_drop] at hcursor ⊢
        omega
      obtain ⟨pages, hpages, hrecords⟩ := ih (by omega) (Nat.le_of_lt hlt) (by omega)
      refine ⟨page :: pages, ?_, ?_⟩
      . simp [hmore, hpages]
      . rw [List.flatMap_cons, hrecords, hsplit]
    | false =>
      refine ⟨[page], by simp [hmore], ?_⟩
      have hge : next ≤ cursor page := by
        rw [hserves.more_eq] at hmore
        exact Nat.le_of_not_lt (of_decide_eq_false hmore)
      rw [h.filter_eq (cursor page), List.drop_eq_nil_of_le (by omega), List.append_nil] at hsplit
      rw [List.flatMap_singleton, hsplit]

end Retained
