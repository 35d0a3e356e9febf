import Mathlib

abbrev BTreeMap (κ ν : Type) [Ord κ] := Std.ExtTreeMap κ ν compare

namespace BTreeMap

open Std

variable {κ ν : Type} [Ord κ] [TransOrd κ] [LawfulEqOrd κ]

theorem getElem?_insert_self (map : BTreeMap κ ν) (key : κ) (x : ν) :
    (map.insert key x)[key]? = some x := by
  simp

theorem getElem?_insert_of_ne (map : BTreeMap κ ν) {key key' : κ} (x : ν) (h : key' ≠ key) :
    (map.insert key x)[key']? = map[key']? := by
  rw [ExtTreeMap.getElem?_insert, if_neg]
  simpa using h.symm

theorem getElem?_erase_of_ne (map : BTreeMap κ ν) {key key' : κ} (h : key' ≠ key) :
    (map.erase key)[key']? = map[key']? := by
  rw [ExtTreeMap.getElem?_erase, if_neg]
  simpa using h.symm

theorem getElem?_filter {map : BTreeMap κ ν} {f : κ → ν → Bool} {key : κ} {x : ν} :
    (map.filter f)[key]? = some x ↔ map[key]? = some x ∧ f key x = true := by
  rw [ExtTreeMap.getElem?_filter]
  simp

theorem nodup_toList (map : BTreeMap κ ν) : map.toList.Nodup := by
  apply List.Pairwise.imp _ map.distinct_keys_toList
  rintro a b hne rfl
  simp at hne

theorem toList_perm_cons {map map' : BTreeMap κ ν} {key : κ} {x : ν} (hnone : map[key]? = none)
    (hsome : map'[key]? = some x) (hother : ∀ key', key' ≠ key → map'[key']? = map[key']?) :
    map'.toList.Perm ((key, x) :: map.toList) := by
  rw [List.perm_ext_iff_of_nodup map'.nodup_toList]
  . rintro ⟨key', y⟩
    rw [List.mem_cons, ExtTreeMap.mem_toList_iff_getElem?_eq_some,
      ExtTreeMap.mem_toList_iff_getElem?_eq_some]
    by_cases h : key' = key
    . subst h
      rw [hsome, hnone]
      simp [eq_comm]
    . rw [hother key' h]
      simp [h]
  . rw [List.nodup_cons]
    refine ⟨?_, map.nodup_toList⟩
    rw [ExtTreeMap.mem_toList_iff_getElem?_eq_some, hnone]
    simp

def sum (map : BTreeMap κ ν) (f : ν → Nat) : Nat := (map.toList.map (fun entry => f entry.2)).sum

omit [LawfulEqOrd κ] in
@[simp]
theorem sum_empty (f : ν → Nat) : sum (∅ : BTreeMap κ ν) f = 0 := by
  rfl

omit [LawfulEqOrd κ] in
theorem sum_of_perm_cons {map map' : BTreeMap κ ν} (key : κ) {x : ν} (f : ν → Nat)
    (h : map'.toList.Perm ((key, x) :: map.toList)) : map'.sum f = f x + map.sum f := by
  unfold sum
  rw [(h.map _).sum_eq]
  simp

theorem sum_insert {map : BTreeMap κ ν} {key : κ} (x : ν) (f : ν → Nat) (h : map[key]? = none) :
    sum (map.insert key x) f = f x + map.sum f := by
  apply sum_of_perm_cons key
  apply toList_perm_cons h
  . apply getElem?_insert_self
  . intro key' hne
    exact map.getElem?_insert_of_ne x hne

theorem sum_erase {map : BTreeMap κ ν} {key : κ} {x : ν} (f : ν → Nat) (h : map[key]? = some x) :
    map.sum f = f x + sum (map.erase key) f := by
  apply sum_of_perm_cons key
  apply toList_perm_cons
  . simp
  . exact h
  . intro key' hne
    exact (map.getElem?_erase_of_ne hne).symm

end BTreeMap
