import Mathlib

/-!
Hash maps. A program only looks keys up, inserts them and iterates in an order that it must not
depend on, so an association list without repeated keys stands for the map.
-/

abbrev HashMap (α β : Type) := AList (fun _ : α => β)

namespace HashMap

variable {α β : Type} [DecidableEq α]

def getD (map : HashMap α β) (key : α) (default : β) : β := (map.lookup key).getD default

theorem getD_insert (map : HashMap α β) (key key' : α) (x default : β) :
    getD (AList.insert key x map) key' default = if key' = key then x else getD map key' default := by
  unfold getD
  by_cases h : key' = key
  . rw [h, AList.lookup_insert, if_pos rfl]
    rfl
  . rw [AList.lookup_insert_ne h, if_neg h]

end HashMap
