import Trillionnium.CallRegistry.Lemmas.Entry

/-!
Entries that were claimed: they stay until a terminal entry is removed, and they are closed by the
completion with the generation of the claim.
-/

namespace CallRegistry

def Entry.isClaimed (generation : Nat) (entry : Entry) : Prop :=
  (∃ pid, entry.dispatch = .started generation pid)
    ∨ ∃ terminal, entry.dispatch = .terminal generation terminal

def Entry.isClosed (generation : Nat) (entry : Entry) : Prop :=
  ∃ terminal, entry.dispatch = .terminal generation terminal

section Entry

variable {maxHistory generation : Nat} {entry entry' : Entry}

theorem Entry.Change.isClosed (h : entry.Change maxHistory entry')
    (hclosed : entry.isClosed generation) : entry'.isClosed generation := by
  obtain ⟨terminal, hdispatch⟩ := hclosed
  have hmoves := h.moves.1
  rw [hdispatch] at hmoves
  generalize hafter : entry'.dispatch = dispatch at hmoves
  cases hmoves with
  | same => exact ⟨terminal, hafter⟩

theorem Entry.Change.isClaimed (h : entry.Change maxHistory entry')
    (hclaimed : entry.isClaimed generation) : entry'.isClaimed generation := by
  cases hclaimed with
  | inr hclosed => exact .inr (h.isClosed hclosed)
  | inl hstarted =>
    obtain ⟨pid, hdispatch⟩ := hstarted
    have hmoves := h.moves.1
    rw [hdispatch] at hmoves
    generalize hafter : entry'.dispatch = dispatch at hmoves
    cases hmoves with
    | same => exact .inl ⟨pid, hafter⟩
    | pid => exact .inl ⟨_, hafter⟩
    | complete => exact .inr ⟨_, hafter⟩

theorem Entry.isClaimed.not_accepted (h : entry.isClaimed generation) (inhibited : Bool) :
    entry.dispatch ≠ .accepted inhibited := by
  rcases h with ⟨pid, h⟩ | ⟨terminal, h⟩
  . rw [h]
    intro heq
    cases heq
  . rw [h]
    intro heq
    cases heq

theorem Entry.isClaimed.isFenced (h : entry.isClaimed generation) : entry.isFenced := by
  intro inhibited haccepted
  exact absurd haccepted (h.not_accepted inhibited)

theorem Entry.isClaimed.not_isUntouched (h : entry.isClaimed generation) :
    entry.isUntouched = false := by
  unfold Entry.isUntouched
  rw [decide_eq_false (h.not_accepted false)]
  rfl

end Entry

namespace Registry

variable {registry : Registry} {key : CallKey} {generation : Nat}

theorem has_claimed_step {P : Entry → Prop} (hclaimed : ∀ entry, P entry → entry.isClaimed generation)
    (hchange : ∀ maxHistory entry entry', P entry → entry.Change maxHistory entry' → P entry')
    {op : Op} (hop : op ≠ .removeTerminal key) (h : registry.Has key P) :
    (registry.step op).1.Has key P := by
  rcases has_step (fun entry h => (hclaimed entry h).isFenced) hchange op h with
    hkept | ⟨⟨hremove, hout⟩, entry, hget, hP, _⟩
  . exact hkept
  . -- What remains is a rollback, and it refuses the entry.
    obtain ⟨request, rfl⟩ := hremove.resolve_right hop
    simp only [step, rollbackAccept, hget] at hout
    rw [(hclaimed entry hP).not_isUntouched] at hout
    split at hout <;> cases hout

theorem has_isClaimed_step {op : Op} (hop : op ≠ .removeTerminal key)
    (h : registry.Has key (Entry.isClaimed generation)) :
    (registry.step op).1.Has key (Entry.isClaimed generation) :=
  has_claimed_step (fun _ h => h) (fun _ _ _ h hchange => hchange.isClaimed h) hop h

theorem has_isClosed_step {op : Op} (hop : op ≠ .removeTerminal key)
    (h : registry.Has key (Entry.isClosed generation)) :
    (registry.step op).1.Has key (Entry.isClosed generation) :=
  has_claimed_step (fun _ h => .inr h) (fun _ _ _ h hchange => hchange.isClosed h) hop h

theorem has_isClaimed_of_grants {op : Op} (h : Grants key generation op (registry.step op).2) :
    (registry.step op).1.Has key (Entry.isClaimed generation) := by
  obtain ⟨_, _, entry, hget, hstarted⟩ := exists_of_grants h
  exact ⟨entry, hget, .inl ⟨none, hstarted⟩⟩

theorem step_requestCancel_ne_error {P : Entry → Prop} (h : registry.Has key P)
    (error : RegistryError) : (registry.step (.requestCancel key)).2 ≠ .observed (.error error) := by
  obtain ⟨entry, hget, _⟩ := h
  simp only [step, requestCancel, mutate, hget]
  intro heq
  cases heq

theorem has_isClosed_complete {terminal : TerminalRecord}
    (h : registry.Has key (Entry.isClaimed generation))
    (hterminal : validateTerminal terminal = .ok ()) :
    (registry.step (.complete key generation terminal)).1.Has key (Entry.isClosed generation) := by
  obtain ⟨entry, hget, hclaimed⟩ := h
  cases hclaimed with
  | inr hclosed =>
    apply has_isClosed_step
    . intro heq
      cases heq
    . exact ⟨entry, hget, hclosed⟩
  | inl hstarted =>
    obtain ⟨pid, hdispatch⟩ := hstarted
    simp only [step, complete, hterminal, Except.ok_bind, hget, hdispatch]
    refine ⟨_, get?_insert_self _ _ _, terminal, rfl⟩

end Registry

end CallRegistry
