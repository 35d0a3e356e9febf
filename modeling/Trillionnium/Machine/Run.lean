import Mathlib

/-!
Runs of a machine that answers each operation it is given. The operations of a run are addressed by
their index, so that a property can speak about what happens between two of them.
-/

namespace Machine

section Settle

variable {ε α σ ο : Type}

def settle (s : σ) (answer : Except ε α → ο) (result : Except ε (α × σ)) : σ × ο :=
  match result with
  | .ok (x, s') => (s', answer (.ok x))
  | .error e => (s, answer (.error e))

variable {s : σ} {answer : Except ε α → ο} {result : Except ε (α × σ)}

theorem settle_rule {P : ο → σ → Prop} (herror : ∀ e, P (answer (.error e)) s)
    (hok : ∀ x s', result = .ok (x, s') → P (answer (.ok x)) s') :
    P (settle s answer result).2 (settle s answer result).1 := by
  cases result with
  | error e => exact herror e
  | ok result => exact hok result.1 result.2 rfl

theorem exists_of_settle {P : ο → Prop} (herror : ∀ e, ¬ P (answer (.error e)))
    (h : P (settle s answer result).2) :
    ∃ x s', result = .ok (x, s') ∧ P (answer (.ok x)) ∧ (settle s answer result).1 = s' := by
  cases result with
  | error e => exact absurd h (herror e)
  | ok result => exact ⟨result.1, result.2, rfl, h, rfl⟩

theorem settle_eq_ok {x : α} (herror : ∀ e, answer (.error e) ≠ answer (.ok x))
    (h : (settle s answer result).2 = answer (.ok x)) :
    ∃ y s', result = .ok (y, s') ∧ (settle s answer result).1 = s' := by
  obtain ⟨y, s', hresult, _, hnext⟩ := exists_of_settle (P := (· = answer (.ok x))) herror h
  exact ⟨y, s', hresult, hnext⟩

end Settle

variable {σ ι ο : Type} (step : σ → ι → σ × ο)

def run (s : σ) (ops : List ι) : σ := ops.foldl (fun s op => (step s op).1) s

def before (s : σ) (ops : List ι) (i : Nat) : σ := run step s (ops.take i)

def At (s : σ) (ops : List ι) (i : Nat) (op : ι) (out : ο) : Prop :=
  ops[i]? = some op ∧ (step (before step s ops i) op).2 = out

def Happens (s : σ) (ops : List ι) (P : ι → ο → Prop) (i : Nat) : Prop :=
  ∃ op out, At step s ops i op out ∧ P op out

def total (f : ι → ο → Nat) : σ → List ι → Nat
  | _, [] => 0
  | s, op :: ops => f op (step s op).2 + total f (step s op).1 ops

def trace : σ → List ι → List (ι × ο)
  | _, [] => []
  | s, op :: ops => (op, (step s op).2) :: trace (step s op).1 ops

variable {step} {s : σ} {ops : List ι}

theorem happens_cons {P : ι → ο → Prop} {op : ι} {i : Nat}
    (h : Happens step (step s op).1 ops P i) : Happens step s (op :: ops) P (i + 1) := by
  exact h

theorem happens_zero {P : ι → ο → Prop} {op : ι} (h : P op (step s op).2) :
    Happens step s (op :: ops) P 0 := by
  exact ⟨op, _, ⟨rfl, rfl⟩, h⟩

theorem before_succ {i : Nat} {op : ι} (h : ops[i]? = some op) :
    before step s ops (i + 1) = (step (before step s ops i) op).1 := by
  unfold before run
  rw [List.take_add_one, h, List.foldl_append]
  rfl

theorem before_succ_of_none {i : Nat} (h : ops[i]? = none) :
    before step s ops (i + 1) = before step s ops i := by
  unfold before
  rw [List.take_add_one, h]
  simp

theorem Happens.exists_step {P : ι → ο → Prop} {i : Nat} (h : Happens step s ops P i) :
    ∃ op, P op (step (before step s ops i) op).2
      ∧ before step s ops (i + 1) = (step (before step s ops i) op).1 := by
  obtain ⟨op, out, ⟨hop, hout⟩, h⟩ := h
  refine ⟨op, ?_, before_succ hop⟩
  rw [hout]
  exact h

theorem run_invariant {P : σ → Prop} (hs : P s) (hstep : ∀ s op, P s → P (step s op).1) :
    P (run step s ops) := by
  unfold run
  induction ops generalizing s with
  | nil => exact hs
  | cons op ops ih =>
    apply ih
    apply hstep
    exact hs

theorem before_invariant {P : σ → Prop} (hs : P s) (hstep : ∀ s op, P s → P (step s op).1)
    (i : Nat) : P (before step s ops i) := by
  apply run_invariant hs hstep

theorem run_total {P : σ → Prop} {Q : ι → ο → Prop} {f : ι → ο → Nat} {g : σ → Nat}
    (hstep : ∀ s op, P s → ¬ Q op (step s op).2
      → P (step s op).1 ∧ g (step s op).1 = g s + f op (step s op).2)
    (hs : P s) (hops : ∀ i, ¬ Happens step s ops Q i) :
    g (run step s ops) = g s + total step f s ops := by
  induction ops generalizing s with
  | nil => rfl
  | cons op ops ih =>
    obtain ⟨hnext, hg⟩ := hstep s op hs (fun h => hops 0 (happens_zero h))
    have hrest := ih hnext (fun i h => hops (i + 1) (happens_cons h))
    calc
      g (run step s (op :: ops))
        = g (step s op).1 + total step f (step s op).1 ops := hrest
      _ = g s + total step f s (op :: ops) := by rw [hg, total, Nat.add_assoc]

theorem before_rel {R : σ → σ → Prop} (hrefl : ∀ s, R s s)
    (htrans : ∀ {a b c}, R a b → R b c → R a c) (hstep : ∀ s op, R s (step s op).1) {i j : Nat}
    (hij : i ≤ j) : R (before step s ops i) (before step s ops j) := by
  induction hij with
  | refl => apply hrefl
  | @step j _ ih =>
    apply htrans ih
    cases hop : ops[j]? with
    | none =>
      rw [before_succ_of_none hop]
      apply hrefl
    | some op =>
      rw [before_succ hop]
      apply hstep

theorem before_mono (s : σ) (ops : List ι) {f : σ → Nat} (hstep : ∀ s op, f s ≤ f (step s op).1)
    {i j : Nat} (hij : i ≤ j) : f (before step s ops i) ≤ f (before step s ops j) := by
  apply before_rel (R := fun a b => f a ≤ f b) (fun _ => Nat.le_refl _) Nat.le_trans hstep hij

theorem exists_last_lost {P : σ → Prop} {i j : Nat} (hij : i ≤ j) (hi : P (before step s ops i))
    (hj : ¬ P (before step s ops j)) :
    ∃ k op, i ≤ k ∧ k < j ∧ ops[k]? = some op
      ∧ P (before step s ops k) ∧ ∀ k', k < k' → k' ≤ j → ¬ P (before step s ops k') := by
  induction hij with
  | refl => exact absurd hi hj
  | @step j hij ih =>
    by_cases hlast : P (before step s ops j)
    . cases hop : ops[j]? with
      | none =>
        rw [before_succ_of_none hop] at hj
        exact absurd hlast hj
      | some op =>
        refine ⟨j, op, hij, Nat.lt_succ_self j, hop, hlast, ?_⟩
        intro k' hjk hkj
        rwa [Nat.le_antisymm hkj hjk]
    . obtain ⟨k, op, hik, hkj, hop, hk, hafter⟩ := ih hlast
      refine ⟨k, op, hik, Nat.lt_succ_of_lt hkj, hop, hk, ?_⟩
      intro k' hkk hkj
      cases Nat.lt_or_ge j k' with
      | inl hlt => rwa [Nat.le_antisymm hkj hlt]
      | inr hge => exact hafter k' hkk hge

theorem exists_lost {P : σ → Prop} {i j : Nat} (hij : i ≤ j) (hi : P (before step s ops i))
    (hj : ¬ P (before step s ops j)) :
    ∃ k op, i ≤ k ∧ k < j ∧ ops[k]? = some op
      ∧ P (before step s ops k) ∧ ¬ P (step (before step s ops k) op).1 := by
  obtain ⟨k, op, hik, hkj, hop, hk, hafter⟩ := exists_last_lost hij hi hj
  refine ⟨k, op, hik, hkj, hop, hk, ?_⟩
  rw [← before_succ hop]
  exact hafter (k + 1) (Nat.lt_succ_self k) hkj

theorem before_of_le {P : σ → Prop} {i j : Nat} (hij : i ≤ j) (hi : P (before step s ops i))
    (hstep : ∀ k op, i ≤ k → k < j → ops[k]? = some op → P (before step s ops k)
      → P (step (before step s ops k) op).1) : P (before step s ops j) := by
  by_contra hj
  obtain ⟨k, op, hik, hkj, hop, hk, hlost⟩ := exists_lost hij hi hj
  exact hlost (hstep k op hik hkj hop hk)

end Machine
