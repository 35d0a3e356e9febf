import Mathlib

namespace Except

variable {ε α β : Type}

@[simp]
theorem toOption_ok (x : α) : (Except.ok x : Except ε α).toOption = some x := rfl

@[simp]
theorem toOption_error (e : ε) : (Except.error e : Except ε α).toOption = none := rfl

@[simp]
theorem toOption_bind (x : Except ε α) (f : α → Except ε β) :
    (x >>= f).toOption = x.toOption.bind (fun y => (f y).toOption) := by
  cases x with
  | error _ | ok _ => rfl

theorem toOption_eq_some {x : Except ε α} {y : α} : x.toOption = some y ↔ x = .ok y := by
  cases x with
  | error _ | ok _ => simp

theorem eq_ok_congr {δ : Type} {x : Except ε α} {y : Except δ α} (h : x.toOption = y.toOption)
    (z : α) : x = .ok z ↔ y = .ok z := by
  rw [← toOption_eq_some, h, toOption_eq_some]

@[simp]
theorem ok_bind (x : α) (f : α → Except ε β) : ((.ok x : Except ε α) >>= f) = f x := rfl

@[simp]
theorem error_bind (e : ε) (f : α → Except ε β) : ((.error e : Except ε α) >>= f) = .error e := rfl

theorem bind_eq_ok {x : Except ε α} {f : α → Except ε β} {y : β} :
    (x >>= f) = .ok y ↔ ∃ a, x = .ok a ∧ f a = .ok y := by
  cases x with
  | error _ | ok _ => simp

theorem error_ite_eq_ok {p : Prop} [Decidable p] {x : Except ε α} {y : α} :
    (if p then .error e else x) = .ok y ↔ ¬ p ∧ x = .ok y := by
  by_cases h : p <;> simp [h]

theorem map_eq_ok {x : Except ε α} {f : α → β} {y : β} :
    x.map f = .ok y ↔ ∃ a, x = .ok a ∧ f a = y := by
  cases x with
  | error _ | ok _ => simp [Except.map]

theorem foldlM_error {f : β → α → Except ε β} {xs : List α} {x : α} (hmem : x ∈ xs)
    (h : ∀ b, ∃ e, f b x = .error e) (b : β) : ∃ e, xs.foldlM f b = .error e := by
  induction xs generalizing b with
  | nil => cases hmem
  | cons y xs ih =>
    rw [List.foldlM_cons]
    cases hy : f b y with
    | error e => exact ⟨e, rfl⟩
    | ok b' =>
      cases List.mem_cons.mp hmem with
      | inl heq =>
        obtain ⟨e, he⟩ := h b
        rw [heq, hy] at he
        cases he
      | inr hmem => exact ih hmem b'

theorem toOption_foldlM {δ : Type} {f : β → α → Except ε β} {g : β → α → Except δ β}
    (h : ∀ b x, (f b x).toOption = (g b x).toOption) (xs : List α) (b : β) :
    (xs.foldlM f b).toOption = (xs.foldlM g b).toOption := by
  induction xs generalizing b with
  | nil => rfl
  | cons x xs ih =>
    simp only [List.foldlM_cons, toOption_bind, h, ih]

theorem forM_eq_ok {f : α → Except ε Unit} {xs : List α} :
    xs.forM f = .ok () ↔ ∀ x ∈ xs, f x = .ok () := by
  induction xs with
  | nil => simp [List.forM, pure, Except.pure]
  | cons x xs ih =>
    change (f x >>= fun _ => xs.forM f) = .ok () ↔ _
    rw [bind_eq_ok, List.forall_mem_cons]
    constructor
    . rintro ⟨_, hx, hxs⟩
      exact ⟨hx, ih.mp hxs⟩
    . rintro ⟨hx, hxs⟩
      exact ⟨(), hx, ih.mpr hxs⟩

@[simp]
theorem pure_eq_ok (x : α) : (pure x : Except ε α) = .ok x := rfl

end Except
