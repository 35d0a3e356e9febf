import Trillionnium.Concurrent.Environment

/-!
A program that works on a state which others change between its actions.
-/

namespace Concurrent

structure World (σ Act : Type) (Res : Act → Type) where
  exec : σ → (a : Act) → Res a → σ → Prop
  rely : σ → σ → Prop

namespace World

variable {σ Act : Type} {Res : Act → Type} {α γ : Type}

inductive Interleaves (world : World σ Act Res) :
    σ → Prog Act Res α → Prog.Trace Act Res → σ → Prog Act Res α → Prop where
  | refl (s : σ) (p : Prog Act Res α) : Interleaves world s p [] s p
  | act {s s' s'' : σ} {a : Act} {r : Res a} {next : Res a → Prog Act Res α}
      {trace : Prog.Trace Act Res} {q : Prog Act Res α} (hexec : world.exec s a r s')
      (h : Interleaves world s' (next r) trace s'' q) :
    Interleaves world s (.act a next) (⟨a, r⟩ :: trace) s'' q
  | other {s s' s'' : σ} {p q : Prog Act Res α} {trace : Prog.Trace Act Res} (hrely : world.rely s s')
      (h : Interleaves world s' p trace s'' q) : Interleaves world s p trace s'' q

variable {world : World σ Act Res} {monitor : Monitor Act Res γ} {Q : α → γ → Prop}

variable {trace : Prog.Trace Act Res} {β : Type} {a : Act}

theorem Interleaves.steps (h : world.Interleaves s p trace s' q) : p.Steps trace q := by
  induction h with
  | refl s p => exact .refl p
  | act _ _ ih => exact .act ih
  | other _ _ ih => exact ih

theorem Interleaves.mono {world' : World σ Act Res} {s s' : σ}
    (hexec : ∀ s a r s', world.exec s a r s' → world'.exec s a r s')
    (hrely : ∀ s s', world.rely s s' → world'.rely s s') (h : world.Interleaves s p trace s' q) :
    world'.Interleaves s p trace s' q := by
  induction h with
  | refl s p => exact .refl s p
  | act h _ ih => exact .act (hexec _ _ _ _ h) ih
  | other h _ ih => exact .other (hrely _ _ h) ih

theorem Interleaves.perform_bind (hrely : ∀ s s', ¬ world.rely s s') {f : Res a → Prog Act Res β}
    (h : world.Interleaves s (.perform a >>= f) trace s' q) :
    trace = [] ∧ s' = s ∨ ∃ r s₁ rest, trace = ⟨a, r⟩ :: rest ∧ world.exec s a r s₁
      ∧ world.Interleaves s₁ (f r) rest s' q := by
  change world.Interleaves s (.act a fun r => f r) trace s' q at h
  cases h with
  | refl => exact .inl ⟨rfl, rfl⟩
  | act hexec h => exact .inr ⟨_, _, _, rfl, hexec, h⟩
  | other hother => exact absurd hother (hrely _ _)

theorem Interleaves.performed (hrely : ∀ s s', ¬ world.rely s s') {f : Res a → Prog Act Res β}
    (h : world.Interleaves s (.perform a >>= f) trace s' (.pure y)) :
    ∃ r s₁ rest, trace = ⟨a, r⟩ :: rest ∧ world.exec s a r s₁
      ∧ world.Interleaves s₁ (f r) rest s' (.pure y) := by
  change world.Interleaves s (.act a fun r => f r) trace s' (.pure y) at h
  cases h with
  | act hexec h => exact ⟨_, _, _, rfl, hexec, h⟩
  | other hother => exact absurd hother (hrely _ _)

theorem Interleaves.of_bind {f : α → Prog Act Res β}
    (h : world.Interleaves s (p >>= f) trace s' (.pure y)) :
    ∃ x s₁ before behind, trace = before ++ behind ∧ world.Interleaves s p before s₁ (.pure x)
      ∧ world.Interleaves s₁ (f x) behind s' (.pure y) := by
  generalize hp : p >>= f = q at h
  generalize hy : Prog.pure y = z at h
  induction h generalizing p with
  | refl s q =>
    cases hy
    cases p with
    | pure x =>
      refine ⟨x, s, [], [], rfl, .refl s _, ?_⟩
      change f x = _ at hp
      rw [hp]
      exact .refl s _
    | act _ _ | halt => cases hp
  | act hexec h ih =>
    cases hy
    cases p with
    | pure x =>
      refine ⟨x, _, [], _, rfl, .refl _ _, ?_⟩
      change f x = _ at hp
      rw [hp]
      exact .act hexec h
    | act a next =>
      cases hp
      obtain ⟨x, s₁, before, behind, rfl, hp, hf⟩ := ih rfl rfl
      exact ⟨x, s₁, _ :: before, behind, rfl, .act hexec hp, hf⟩
    | halt => cases hp
  | other hrely _ ih =>
    obtain ⟨x, s₁, before, behind, htrace, hp, hf⟩ := ih hp hy
    exact ⟨x, s₁, before, behind, htrace, .other hrely hp, hf⟩

theorem Interleaves.unchanged {P : α → Prop} (hrely : ∀ s s', ¬ world.rely s s')
    (hK : ∀ s a r s', K a → world.exec s a r s' → s' = s) {p : Prog Act Res α} {x : α}
    (hp : p.Only K P) (h : world.Interleaves s p trace s' (.pure x)) : s' = s ∧ P x := by
  generalize hx : Prog.pure x = q at h
  induction h with
  | refl s p =>
    cases hx
    exact ⟨rfl, hp⟩
  | act hexec _ ih =>
    cases hK _ _ _ _ hp.1 hexec
    exact ih (hp.2 _) hx
  | other hother => exact absurd hother (hrely _ _)

def drive (serve : σ → (a : Act) → Option (Res a × σ)) :
    Prog Act Res α → σ → Option (α × Prog.Trace Act Res × σ)
  | .pure x, s => some (x, [], s)
  | .act a next, s => (serve s a).bind fun r =>
    (drive serve (next r.1) r.2).map fun t => (t.1, ⟨a, r.1⟩ :: t.2.1, t.2.2)
  | .halt, _ => none

variable {serve : σ → (a : Act) → Option (Res a × σ)}

theorem interleaves_drive {s s' : σ}
    (hserve : ∀ s a r s', serve s a = some (r, s') → world.exec s a r s')
    (h : drive serve p s = some (x, trace, s')) : world.Interleaves s p trace s' (.pure x) := by
  induction p generalizing s trace with
  | pure y =>
    cases h
    exact .refl _ _
  | act a next ih =>
    obtain ⟨⟨r, s₁⟩, hact, h⟩ := Option.bind_eq_some_iff.mp h
    obtain ⟨⟨y, rest, s₂⟩, hrest, heq⟩ := Option.map_eq_some_iff.mp h
    cases heq
    exact .act (hserve _ _ _ _ hact) (ih _ hrest)
  | halt => cases h

theorem drive_bind {p : Prog Act Res α} {f : α → Prog Act Res β} {x : α}
    (h : drive serve p s = some (x, trace, s')) : drive serve (p >>= f) s
      = (drive serve (f x) s').map fun t => (t.1, trace ++ t.2.1, t.2.2) := by
  induction p generalizing s trace with
  | pure y =>
    cases h
    exact Option.map_id'.symm
  | act a next ih =>
    obtain ⟨⟨r, s₁⟩, hact, h⟩ := Option.bind_eq_some_iff.mp h
    obtain ⟨⟨y, rest, s₂⟩, hrest, heq⟩ := Option.map_eq_some_iff.mp h
    cases heq
    have hnext := ih _ hrest
    change (serve s a).bind (fun r => (drive serve (next r.1 >>= f) r.2).map _) = _
    rw [hact, Option.bind_some, hnext, Option.map_map]
    rfl
  | halt => cases h

structure Guards (world : World σ Act Res) (monitor : Monitor Act Res γ) (I : γ → σ → Prop) :
    Prop where
  exec : ∀ g s a r s', I g s → monitor.allows g a → world.exec s a r s' → I (monitor.next g a r) s'
  rely : ∀ g s s', I g s → world.rely s s' → I g s'

theorem Guards.interleaves {I : γ → σ → Prop} (hguards : world.Guards monitor I) {g : γ}
    (h : world.Interleaves s p trace s' q) (hkeeps : monitor.Keeps g p Q) (hI : I g s) :
    monitor.Keeps (monitor.after g trace) q Q ∧ I (monitor.after g trace) s' := by
  induction h generalizing g with
  | refl s p => exact ⟨hkeeps, hI⟩
  | act hexec _ ih => exact ih (hkeeps.2 _) (hguards.exec _ _ _ _ _ hI hkeeps.1 hexec)
  | other hrely _ ih => exact ih hkeeps (hguards.rely _ _ _ hI hrely)

theorem Guards.returned {I : γ → σ → Prop} (hguards : world.Guards monitor I) {g : γ} {x : α}
    (h : world.Interleaves s p trace s' (.pure x)) (hkeeps : monitor.Keeps g p Q) (hI : I g s) :
    Q x (monitor.after g trace) ∧ I (monitor.after g trace) s' :=
  hguards.interleaves h hkeeps hI

end World

end Concurrent
