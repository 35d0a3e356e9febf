import Trillionnium.Concurrent.Prog

/-!
Programs in an environment that answers each action. The answer may depend on all that happened
before.
-/

namespace Concurrent

abbrev Environment (Act : Type) (Res : Act → Type) := Prog.Trace Act Res → (a : Act) → Res a

namespace Prog

variable {Act : Type} {Res : Act → Type} {α β σ : Type} {env : Environment Act Res}

def answer (env : Environment Act Res) (trace : Trace Act Res) :
    Prog Act Res α → Option (Trace Act Res × α)
  | .pure x => some (trace, x)
  | .act a next => answer env (trace ++ [⟨a, env trace a⟩]) (next (env trace a))
  | .halt => none

def Unbroken : Prog Act Res α → Prop
  | .pure _ => True
  | .act _ next => ∀ r, (next r).Unbroken
  | .halt => False

theorem unbroken_perform : (perform a : Prog Act Res (Res a)).Unbroken := fun _ => trivial

theorem Unbroken.bind {p : Prog Act Res α} {f : α → Prog Act Res β} (hp : p.Unbroken)
    (hf : ∀ x, (f x).Unbroken) : (p >>= f).Unbroken := by
  induction p with
  | pure x => exact hf x
  | act a next ih => exact fun r => ih r (hp r)
  | halt => exact hp.elim

theorem Unbroken.exists_answer {p : Prog Act Res α} (hp : p.Unbroken) (trace : Trace Act Res) :
    ∃ trace' x, p.answer env trace = some (trace', x) := by
  induction p generalizing trace with
  | pure x => exact ⟨trace, x, rfl⟩
  | act a next ih => exact ih _ (hp _) _
  | halt => exact hp.elim

theorem answer_bind (p : Prog Act Res α) (f : α → Prog Act Res β) (trace : Trace Act Res) :
    (p >>= f).answer env trace
      = (p.answer env trace).bind fun (trace, x) => (f x).answer env trace := by
  induction p generalizing trace with
  | pure _ | halt => rfl
  | act a next ih => exact ih _ _

theorem runs_of_answer {p : Prog Act Res α} {trace : Trace Act Res} {x : α}
    (h : p.answer env trace = some (trace', x)) :
    ∃ suffix, trace' = trace ++ suffix ∧ p.Runs suffix x
      ∧ ∀ event ∈ suffix, ∃ before a, trace.length ≤ before.length
        ∧ event = ⟨a, env before a⟩ := by
  induction p generalizing trace with
  | pure y =>
    cases h
    exact ⟨[], (List.append_nil _).symm, .refl _, fun _ hmem => absurd hmem List.not_mem_nil⟩
  | act a next ih =>
    obtain ⟨suffix, heq, hruns, hanswered⟩ := ih _ h
    refine ⟨⟨a, env trace a⟩ :: suffix, ?_, .act hruns, ?_⟩
    . rw [heq, List.append_assoc]
      rfl
    . intro event hmem
      cases List.mem_cons.mp hmem with
      | inl heq => exact ⟨trace, a, Nat.le_refl _, heq⟩
      | inr hmem =>
        obtain ⟨before, a', hlength, hevent⟩ := hanswered event hmem
        rw [List.length_append] at hlength
        exact ⟨before, a', by omega, hevent⟩
  | halt => cases h

def Returns (env : Environment Act Res) (p : Nat → Prog Act Res α) : Prop :=
  ∀ trace, ∃ rounds trace' x, (p rounds).answer env trace = some (trace', x)

theorem Unbroken.returns {p : Prog Act Res α} (hp : p.Unbroken) : Returns env (fun _ => p) := by
  intro trace
  exact ⟨0, hp.exists_answer trace⟩

theorem Returns.bind {f : α → Prog Act Res β} (hp : Returns env p) (hf : ∀ x, (f x).Unbroken) :
    Returns env (fun rounds => p rounds >>= f) := by
  intro trace
  obtain ⟨rounds, trace', x, hx⟩ := hp trace
  obtain ⟨trace'', y, hy⟩ := (hf x).exists_answer trace'
  refine ⟨rounds, trace'', y, ?_⟩
  rw [answer_bind, hx]
  exact hy

theorem Unbroken.bind_returns {p : Prog Act Res α} {f : Nat → α → Prog Act Res β}
    (hp : p.Unbroken) (hf : ∀ x, Returns env (fun rounds => f rounds x)) :
    Returns env (fun rounds => p >>= f rounds) := by
  intro trace
  obtain ⟨trace', x, hx⟩ := hp.exists_answer trace
  obtain ⟨rounds, trace'', y, hy⟩ := hf x trace'
  refine ⟨rounds, trace'', y, ?_⟩
  rw [answer_bind, hx]
  exact hy

theorem returns_iterate {body : σ → Prog Act Res (σ ⊕ α)} {delays : Sigma Res → Bool} (bound : Nat)
    (henv : ∀ trace a, bound ≤ trace.length → delays ⟨a, env trace a⟩ = false)
    (hunbroken : ∀ s, (body s).Unbroken)
    (hdelayed : ∀ s trace s', (body s).Runs trace (.inl s') → ∃ event ∈ trace, delays event = true)
    (s : σ) : Returns env (fun rounds => iterate body rounds s) := by
  intro trace
  -- Each round that goes on has a delaying event, so it brings the trace closer to the bound.
  generalize hmeasure : bound - trace.length = measure
  induction measure using Nat.strong_induction_on generalizing trace s with
  | _ measure ih =>
    obtain ⟨trace', r, hanswer⟩ : ∃ trace' r, (body s).answer env trace = some (trace', r) :=
      (hunbroken s).exists_answer trace
    cases r with
    | inr x =>
      refine ⟨1, trace', x, ?_⟩
      unfold iterate
      rw [answer_bind, hanswer]
      rfl
    | inl s' =>
      obtain ⟨suffix, heq, hruns, hanswered⟩ := runs_of_answer hanswer
      obtain ⟨event, hmem, hdelays⟩ := hdelayed s suffix s' hruns
      have hlonger : trace'.length = trace.length + suffix.length := by
        rw [heq, List.length_append]
      have hpos : 0 < suffix.length := List.length_pos_of_mem hmem
      have hshort : trace.length < bound := by
        obtain ⟨before, a, hlength, hevent⟩ := hanswered event hmem
        by_contra hlong
        rw [hevent, henv before a (by omega)] at hdelays
        cases hdelays
      obtain ⟨rounds, trace'', x, hrest⟩ := ih _ (by omega) s' trace' rfl
      refine ⟨rounds + 1, trace'', x, ?_⟩
      unfold iterate
      rw [answer_bind, hanswer]
      exact hrest

end Prog

end Concurrent
