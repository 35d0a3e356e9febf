import Mathlib

/-!
Rules for programs with a state that may stop with an error. A triple is about the runs that do not
stop.
-/

namespace Stateful

variable {σ ε α β : Type}

def Triple (P : σ → Prop) (m : StateT σ (Except ε) α) (Q : α → σ → Prop) : Prop :=
  ∀ s, P s → ∀ x s', m s = .ok (x, s') → Q x s'

variable {P : σ → Prop} {Q : α → σ → Prop} {R : β → σ → Prop}

theorem Triple.pure {x : α} (h : ∀ s, P s → Q x s) :
    Triple P (Pure.pure x : StateT σ (Except ε) α) Q := by
  rintro s hs _ _ ⟨⟩
  exact h s hs

theorem Triple.bind {f : α → StateT σ (Except ε) β} (hm : Triple P m Q)
    (hf : ∀ x, Triple (Q x) (f x) R) : Triple P (m >>= f) R := by
  intro s hs y s'' h
  change (m s >>= fun p => f p.1 p.2) = _ at h
  cases hrun : m s with
  | error e =>
    rw [hrun] at h
    cases h
  | ok p =>
    rw [hrun] at h
    exact hf p.1 p.2 (hm s hs p.1 p.2 hrun) y s'' h

theorem Triple.mono (h : Triple P m Q) (hpre : ∀ s, P' s → P s) (hpost : ∀ x s, Q x s → Q' x s) :
    Triple P' m Q' := by
  intro s hs x s' hrun
  exact hpost x s' (h s (hpre s hs) x s' hrun)

theorem Triple.get_bind {f : σ → StateT σ (Except ε) β}
    (h : ∀ s, P s → ∀ x s', f s s = .ok (x, s') → R x s') : Triple P (MonadState.get >>= f) R := by
  intro s hs x s' hrun
  exact h s hs x s' hrun

theorem Triple.modify {f : σ → σ} {Q : PUnit → σ → Prop} (h : ∀ s, P s → Q ⟨⟩ (f s)) :
    Triple P (modify f : StateT σ (Except ε) PUnit) Q := by
  rintro s hs _ _ ⟨⟩
  exact h s hs

theorem Triple.modifyGet {f : σ → α × σ} (h : ∀ s, P s → Q (f s).1 (f s).2) :
    Triple P (modifyGet f : StateT σ (Except ε) α) Q := by
  intro s hs x s' hrun
  have heq : f s = (x, s') := Except.ok.inj hrun
  have hpost := h s hs
  rw [heq] at hpost
  exact hpost

theorem Triple.lift {x : Except ε α} (h : ∀ y, x = .ok y → ∀ s, P s → Q y s) :
    Triple P (liftM x : StateT σ (Except ε) α) Q := by
  intro s hs y s' hrun
  cases x with
  | error e => cases hrun
  | ok y =>
    cases hrun
    exact h y rfl s hs

theorem Triple.throw {e : ε} : Triple P (throw e : StateT σ (Except ε) α) Q := by
  rintro s hs x s' ⟨⟩

theorem Triple.ite [Decidable c] {n : StateT σ (Except ε) α} (hm : c → Triple P m Q)
    (hn : ¬ c → Triple P n Q) : Triple P (if c then m else n) Q := by
  split
  next h => exact hm h
  next h => exact hn h

section Moves

variable {R : σ → σ → Prop}

def Moves (R : σ → σ → Prop) (m : StateT σ (Except ε) α) : Prop :=
  ∀ s x s', m s = .ok (x, s') → R s s'

theorem Moves.triple (h : Moves R m) (hpost : ∀ s s', P s → R s s' → ∀ x, Q x s') :
    Triple P m Q := by
  intro s hs x s' hrun
  exact hpost s s' hs (h s x s' hrun) x

theorem Moves.mono (h : Moves R m) (himp : ∀ s s', R s s' → R' s s') : Moves R' m := by
  intro s x s' hrun
  exact himp s s' (h s x s' hrun)

theorem Moves.pure (hrefl : ∀ s, R s s) (x : α) :
    Moves R (Pure.pure x : StateT σ (Except ε) α) := by
  rintro s _ _ ⟨⟩
  exact hrefl s

theorem Moves.bind (htrans : ∀ a b c, R a b → R b c → R a c) {f : α → StateT σ (Except ε) β}
    (hm : Moves R m) (hf : ∀ x, Moves R (f x)) :
    Moves R (m >>= f) := by
  intro s y s'' h
  change (m s >>= fun p => f p.1 p.2) = _ at h
  cases hrun : m s with
  | error e =>
    rw [hrun] at h
    cases h
  | ok p =>
    rw [hrun] at h
    exact htrans s p.2 s'' (hm s p.1 p.2 hrun) (hf p.1 p.2 y s'' h)

theorem Moves.get_bind {f : σ → StateT σ (Except ε) β}
    (h : ∀ s x s', f s s = .ok (x, s') → R s s') : Moves R (get >>= f) := by
  intro s x s' hrun
  exact h s x s' hrun

theorem Moves.modify {f : σ → σ} (h : ∀ s, R s (f s)) :
    Moves R (modify f : StateT σ (Except ε) PUnit) := by
  rintro s _ _ ⟨⟩
  exact h s

theorem Moves.modifyGet {f : σ → α × σ} (h : ∀ s, R s (f s).2) :
    Moves R (modifyGet f : StateT σ (Except ε) α) := by
  intro s x s' hrun
  have heq : f s = (x, s') := Except.ok.inj hrun
  have hstep := h s
  rw [heq] at hstep
  exact hstep

theorem Moves.lift (hrefl : ∀ s, R s s) (x : Except ε α) :
    Moves R (liftM x : StateT σ (Except ε) α) := by
  intro s y s' hrun
  cases x with
  | error e => cases hrun
  | ok y =>
    cases hrun
    exact hrefl s

theorem Moves.ite [Decidable c] {n : StateT σ (Except ε) α} (hm : c → Moves R m)
    (hn : ¬ c → Moves R n) : Moves R (if c then m else n) := by
  split
  next h => exact hm h
  next h => exact hn h

theorem Moves.forM (hrefl : ∀ s, R s s) (htrans : ∀ a b c, R a b → R b c → R a c)
    {f : β → StateT σ (Except ε) PUnit} (xs : List β) (h : ∀ x, Moves R (f x)) :
    Moves R (xs.forM f) := by
  induction xs with
  | nil => exact Moves.pure hrefl _
  | cons x xs ih =>
    change Moves R (f x >>= fun _ => xs.forM f)
    exact Moves.bind htrans (h x) (fun _ => ih)

end Moves

end Stateful
