import Mathlib

namespace Checked

def u64Max : Nat := 2 ^ 64 - 1

def add (a b : Nat) : Option Nat := if a + b ≤ u64Max then some (a + b) else none

theorem add_eq_some {a b c : Nat} : add a b = some c ↔ c = a + b ∧ a + b ≤ u64Max := by
  unfold add
  split
  next h =>
    constructor
    . intro heq
      cases heq
      exact ⟨rfl, h⟩
    . intro heq
      rw [heq.1]
  next h =>
    constructor
    . intro heq
      cases heq
    . intro heq
      exact absurd heq.2 h

end Checked
