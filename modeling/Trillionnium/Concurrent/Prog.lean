import Mathlib

/-!
Programs as trees of atomic actions, and monitors that watch the actions of a program. A monitor has a
state of its own, it says which actions a program may take in it and what follows from their results.
-/

namespace Concurrent

/--
A loop is a tree only if the number of its rounds is bounded. A program whose rounds are used up halts
without a result, so what holds for every number of rounds holds for the loop.
-/
inductive Prog (Act : Type) (Res : Act → Type) (α : Type) where
  | pure (x : α)
  | act (a : Act) (next : Res a → Prog Act Res α)
  | halt

namespace Prog

variable {Act Act' : Type} {Res : Act → Type} {Res' : Act' → Type} {α β σ : Type}

def bind : Prog Act Res α → (α → Prog Act Res β) → Prog Act Res β
  | .pure x, f => f x
  | .act a next, f => .act a fun r => (next r).bind f
  | .halt, _ => .halt

instance : Monad (Prog Act Res) where
  pure := .pure
  bind := bind

def perform (a : Act) : Prog Act Res (Res a) := .act a .pure

def iterate (body : σ → Prog Act Res (σ ⊕ β)) : Nat → σ → Prog Act Res β
  | 0, _ => .halt
  | rounds + 1, s => body s >>= fun
    | .inl s => iterate body rounds s
    | .inr x => .pure x

def handle (handler : (a : Act) → σ → Prog Act' Res' (Res a × σ)) :
    Prog Act Res α → σ → Prog Act' Res' (α × σ)
  | .pure x, s => .pure (x, s)
  | .act a next, s => handler a s >>= fun (r, s) => handle handler (next r) s
  | .halt, _ => .halt

def Only (K : Act → Prop) : Prog Act Res α → (α → Prop) → Prop
  | .pure x, P => P x
  | .act a next, P => K a ∧ ∀ r, (next r).Only K P
  | .halt, _ => True

variable {K : Act → Prop} {P : α → Prop} {Q : β → Prop}

theorem only_perform {R : Res a → Prop} (h : K a) (hR : ∀ r, R r) :
    (perform a : Prog Act Res (Res a)).Only K R := ⟨h, hR⟩

theorem Only.bind {p : Prog Act Res α} {f : α → Prog Act Res β} (hp : p.Only K P)
    (hf : ∀ x, P x → (f x).Only K Q) : (p >>= f).Only K Q := by
  induction p with
  | pure x => exact hf x hp
  | act a next ih => exact ⟨hp.1, fun r => ih r (hp.2 r)⟩
  | halt => trivial

theorem only_perform_bind {f : Res a → Prog Act Res β} (h : K a) (hf : ∀ r, (f r).Only K Q) :
    (perform a >>= f).Only K Q := ⟨h, hf⟩

theorem Only.mono {R : α → Prop} {p : Prog Act Res α} (hp : p.Only K P) (hK : ∀ a, K a → L a)
    (hP : ∀ x, P x → R x) : p.Only L R := by
  induction p with
  | pure x => exact hP x hp
  | act a next ih => exact ⟨hK a hp.1, fun r => ih r (hp.2 r)⟩
  | halt => trivial

abbrev Trace (Act : Type) (Res : Act → Type) := List (Sigma Res)

inductive Steps : Prog Act Res α → Trace Act Res → Prog Act Res α → Prop where
  | refl (p : Prog Act Res α) : Steps p [] p
  | act {a : Act} {next : Res a → Prog Act Res α} {r : Res a} {trace : Trace Act Res}
    {p : Prog Act Res α} (h : Steps (next r) trace p) : Steps (.act a next) (⟨a, r⟩ :: trace) p

def Runs (p : Prog Act Res α) (trace : Trace Act Res) (x : α) : Prop := p.Steps trace (.pure x)

end Prog

structure Monitor (Act : Type) (Res : Act → Type) (γ : Type) where
  allows : γ → Act → Prop
  next : γ → (a : Act) → Res a → γ

namespace Monitor

variable {Act Act' : Type} {Res : Act → Type} {Res' : Act' → Type} {α β γ δ σ : Type}

def Keeps (monitor : Monitor Act Res γ) : γ → Prog Act Res α → (α → γ → Prop) → Prop
  | g, .pure x, Q => Q x g
  | g, .act a next, Q => monitor.allows g a ∧ ∀ r, monitor.Keeps (monitor.next g a r) (next r) Q
  | _, .halt, _ => True

def after (monitor : Monitor Act Res γ) (g : γ) (trace : Prog.Trace Act Res) : γ :=
  trace.foldl (fun g event => monitor.next g event.1 event.2) g

variable {monitor : Monitor Act Res γ} {g : γ} {Q : α → γ → Prop}

theorem keeps_pure {x : α} : monitor.Keeps g (pure x : Prog Act Res α) Q ↔ Q x g := Iff.rfl

theorem keeps_bind {f : α → Prog Act Res β} {R : β → γ → Prop} :
    monitor.Keeps g (p >>= f) R ↔ monitor.Keeps g p (fun x g => monitor.Keeps g (f x) R) := by
  induction p generalizing g with
  | pure _ | halt => exact Iff.rfl
  | act a next ih =>
    constructor
    . intro h
      exact ⟨h.1, fun r => (ih r).mp (h.2 r)⟩
    . intro h
      exact ⟨h.1, fun r => (ih r).mpr (h.2 r)⟩

theorem keeps_perform_bind {f : Res a → Prog Act Res β} {R : β → γ → Prop} :
    monitor.Keeps g (.perform a >>= f) R
      ↔ monitor.allows g a ∧ ∀ r, monitor.Keeps (monitor.next g a r) (f r) R := Iff.rfl

theorem keeps_map {f : α → β} {R : β → γ → Prop} :
    monitor.Keeps g (f <$> p) R ↔ monitor.Keeps g p (fun x g => R (f x) g) := keeps_bind

theorem Keeps.mono {R : α → γ → Prop} (h : monitor.Keeps g p Q) (hQ : ∀ x g, Q x g → R x g) :
    monitor.Keeps g p R := by
  induction p generalizing g with
  | pure x => exact hQ x g h
  | act a next ih => exact ⟨h.1, fun r => ih r (h.2 r)⟩
  | halt => trivial

theorem Keeps.bind {f : α → Prog Act Res β} {R : β → γ → Prop} (h : monitor.Keeps g p Q)
    (hf : ∀ x g, Q x g → monitor.Keeps g (f x) R) : monitor.Keeps g (p >>= f) R := by
  rw [keeps_bind]
  exact h.mono hf

theorem keeps_of_only {I : γ → Prop} {P : α → Prop}
    (hK : ∀ g a, I g → K a → monitor.allows g a ∧ ∀ r, I (monitor.next g a r)) {p : Prog Act Res α}
    (h : p.Only K P) (hg : I g) :
    monitor.Keeps g p (fun x g => P x ∧ I g) := by
  induction p generalizing g with
  | pure x => exact ⟨h, hg⟩
  | act a next ih => exact ⟨(hK g a hg h.1).1, fun r => ih r (h.2 r) ((hK g a hg h.1).2 r)⟩
  | halt => trivial

theorem keeps_iterate {I : σ → γ → Prop}
    (hbody : ∀ s g, I s g → monitor.Keeps g (body s) (fun | .inl s => I s | .inr x => Q x))
    (h : I s g) : monitor.Keeps g (.iterate body rounds s) Q := by
  induction rounds generalizing s g with
  | zero => trivial
  | succ rounds ih =>
    unfold Prog.iterate
    rw [keeps_bind]
    apply (hbody s g h).mono
    intro x g hx
    cases x with
    | inl s => exact ih hx
    | inr x => exact hx

theorem keeps_handle {outer : Monitor Act' Res' δ} {R : γ → σ → δ → Prop}
    (hhandler : ∀ a g s d, monitor.allows g a → R g s d
      → outer.Keeps d (handler a s) (fun x d => R (monitor.next g a x.1) x.2 d)) {d : δ}
    (h : monitor.Keeps g p Q) (hR : R g s d) :
    outer.Keeps d (p.handle handler s) (fun x d => ∃ g, Q x.1 g ∧ R g x.2 d) := by
  induction p generalizing g s d with
  | pure x => exact ⟨g, h, hR⟩
  | act a next ih =>
    unfold Prog.handle
    rw [keeps_bind]
    apply (hhandler a g s d h.1 hR).mono
    intro x d hx
    exact ih x.1 (h.2 x.1) hx
  | halt => trivial

theorem Keeps.steps {trace : Prog.Trace Act Res} (h : monitor.Keeps g p Q)
    (hsteps : p.Steps trace q) :
    monitor.Keeps (monitor.after g trace) q Q := by
  induction hsteps generalizing g with
  | refl p => exact h
  | act _ ih => exact ih (h.2 _)

theorem Keeps.steps_invariant {trace : Prog.Trace Act Res} {I : γ → Prop}
    (hI : ∀ g a r, I g → monitor.allows g a → I (monitor.next g a r)) (h : monitor.Keeps g p Q)
    (hg : I g) (hsteps : p.Steps trace q) :
    I (monitor.after g trace) := by
  induction hsteps generalizing g with
  | refl p => exact hg
  | act _ ih => exact ih (h.2 _) (hI _ _ _ hg h.1)

theorem Keeps.runs {trace : Prog.Trace Act Res} {x : α} (h : monitor.Keeps g p Q)
    (hruns : p.Runs trace x) : Q x (monitor.after g trace) :=
  h.steps hruns

def free : Monitor Act Res Unit where
  allows _ _ := True
  next _ _ _ := ()

theorem keeps_free {P : α → Prop} (h : ∀ x, P x) : free.Keeps () p (fun x _ => P x) := by
  induction p with
  | pure x => exact h x
  | act a next ih => exact ⟨trivial, fun r => ih r⟩
  | halt => trivial

theorem keeps_free_bind {f : α → Prog Act Res β} {P : β → Prop}
    (h : ∀ x, free.Keeps () (f x) (fun y _ => P y)) :
    free.Keeps () (p >>= f) (fun y _ => P y) := by
  rw [keeps_bind]
  exact keeps_free h

def history (allows : Prog.Trace Act Res → Act → Prop) :
    Monitor Act Res (Prog.Trace Act Res) where
  allows := allows
  next trace a r := trace ++ [⟨a, r⟩]

theorem after_history (allows : Prog.Trace Act Res → Act → Prop) (trace trace' : Prog.Trace Act Res) :
    (history allows).after trace trace' = trace ++ trace' := by
  induction trace' generalizing trace with
  | nil => exact (List.append_nil trace).symm
  | cons event trace' ih =>
    rw [List.append_cons]
    exact ih _

end Monitor

end Concurrent
