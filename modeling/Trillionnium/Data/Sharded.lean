import Trillionnium.Data.HashMap

/-!
Maps that are split into shards. A function of the key says which shard a key belongs to, every
operation on a key reads and writes that shard only.
-/

namespace Sharded

variable {n : Nat} {α β : Type} [DecidableEq α]

abbrev Shards (n : Nat) (α β : Type) := Fin n → HashMap α β

def empty : Shards n α β := fun _ => ∅

def get? (index : α → Fin n) (shards : Shards n α β) (key : α) : Option β :=
  (shards (index key)).lookup key

def insert (index : α → Fin n) (shards : Shards n α β) (key : α) (value : β) : Shards n α β :=
  Function.update shards (index key) (AList.insert key value (shards (index key)))

def erase (index : α → Fin n) (shards : Shards n α β) (key : α) : Shards n α β :=
  Function.update shards (index key) (AList.erase key (shards (index key)))

def size (shards : Shards n α β) : Nat := ∑ i, (shards i).keys.length

section

variable {index : α → Fin n} {shards : Shards n α β} {key key' : α} {value : β}

@[simp]
theorem get?_insert_self : get? index (insert index shards key value) key = some value := by
  unfold get? insert
  rw [Function.update_self, AList.lookup_insert]

theorem get?_insert_of_ne (h : key' ≠ key) :
    get? index (insert index shards key value) key' = get? index shards key' := by
  unfold get? insert
  by_cases hindex : index key' = index key
  . rw [hindex, Function.update_self, AList.lookup_insert_ne h]
  . rw [Function.update_of_ne hindex]

@[simp]
theorem get?_erase_self : get? index (erase index shards key) key = none := by
  unfold get? erase
  rw [Function.update_self, AList.lookup_erase]

theorem get?_erase_of_ne (h : key' ≠ key) :
    get? index (erase index shards key) key' = get? index shards key' := by
  unfold get? erase
  by_cases hindex : index key' = index key
  . rw [hindex, Function.update_self, AList.lookup_erase_ne h]
  . rw [Function.update_of_ne hindex]

variable {P : α → Option β → Prop}

theorem get?_insert_rule (hself : P key (some value))
    (hother : ∀ key', key' ≠ key → P key' (get? index shards key')) (key' : α) :
    P key' (get? index (insert index shards key value) key') := by
  by_cases h : key' = key
  . rw [h, get?_insert_self]
    exact hself
  . rw [get?_insert_of_ne h]
    exact hother key' h

theorem get?_erase_rule (hself : P key none)
    (hother : ∀ key', key' ≠ key → P key' (get? index shards key')) (key' : α) :
    P key' (get? index (erase index shards key) key') := by
  by_cases h : key' = key
  . rw [h, get?_erase_self]
    exact hself
  . rw [get?_erase_of_ne h]
    exact hother key' h

end

omit [DecidableEq α] in
theorem size_empty : size (empty : Shards n α β) = 0 := by
  unfold size
  apply Finset.sum_eq_zero
  intro i _
  rfl

theorem sum_update {γ : Type} (g : γ → Nat) (f : Fin n → γ) {i : Fin n} {x : γ} :
    (∑ j, g (Function.update f i x j)) + g (f i) = (∑ j, g (f j)) + g x := by
  have hnew := Finset.add_sum_erase Finset.univ (fun j => g (Function.update f i x j))
    (Finset.mem_univ i)
  have hold := Finset.add_sum_erase Finset.univ (fun j => g (f j)) (Finset.mem_univ i)
  have hrest : ∑ j ∈ Finset.univ.erase i, g (Function.update f i x j)
      = ∑ j ∈ Finset.univ.erase i, g (f j) := by
    apply Finset.sum_congr rfl
    intro j hj
    rw [Function.update_of_ne (Finset.ne_of_mem_erase hj)]
  simp only [Function.update_self] at hnew
  omega

omit [DecidableEq α] in
theorem size_update (shards : Shards n α β) (i : Fin n) (shard : HashMap α β) :
    size (Function.update shards i shard) + (shards i).keys.length
      = size shards + shard.keys.length :=
  sum_update (fun shard => shard.keys.length) shards

theorem mem_keys_of_get? {key : α} (h : get? index shards key = some value) :
    key ∈ (shards (index key)).keys := by
  rw [← AList.mem_keys, ← AList.lookup_isSome]
  unfold get? at h
  rw [h]
  rfl

theorem size_erase (index : α → Fin n) (shards : Shards n α β) {key : α}
    (h : get? index shards key = some value) :
    size (erase index shards key) + 1 = size shards := by
  have hmem := mem_keys_of_get? h
  have hlength := List.length_erase_of_mem hmem
  have hpos := List.length_pos_of_mem hmem
  have hsize := size_update shards (index key) (AList.erase key (shards (index key)))
  rw [AList.keys_erase] at hsize
  unfold erase
  omega

theorem size_insert_of_none (index : α → Fin n) (shards : Shards n α β) {key : α} (value : β)
    (h : get? index shards key = none) :
    size (insert index shards key value) = size shards + 1 := by
  have hmem : key ∉ (shards (index key)).keys := by
    rw [← AList.mem_keys, ← AList.lookup_eq_none]
    exact h
  have hsize := size_update shards (index key) (AList.insert key value (shards (index key)))
  rw [AList.keys_insert, List.length_cons, List.erase_of_not_mem hmem] at hsize
  unfold insert
  omega

theorem size_insert_of_some (index : α → Fin n) (shards : Shards n α β) {key : α} (value : β)
    (h : get? index shards key = some old) :
    size (insert index shards key value) = size shards := by
  have hmem := mem_keys_of_get? h
  have hlength := List.length_erase_of_mem hmem
  have hpos := List.length_pos_of_mem hmem
  have hsize := size_update shards (index key) (AList.insert key value (shards (index key)))
  rw [AList.keys_insert, List.length_cons] at hsize
  unfold insert
  omega

def release (count : Nat) : Nat := (count + (2 ^ 64 - 1)) % 2 ^ 64

structure Counted (maximum : Nat) (shards : Shards n α β) (count : Nat) : Prop where
  count_eq : count = size shards
  bound : count ≤ maximum
  fits : maximum < 2 ^ 64

namespace Counted

variable {maximum count : Nat} {index : α → Fin n} {shards : Shards n α β} {key : α}

omit [DecidableEq α] in
theorem empty (h : maximum < 2 ^ 64) : Counted maximum (Sharded.empty : Shards n α β) 0 := by
  refine ⟨?_, Nat.zero_le _, h⟩
  rw [size_empty]

section

variable (h : Counted maximum shards count)
include h

theorem insert_of_some (hget : get? index shards key = some old) :
    Counted maximum (insert index shards key value) count := by
  refine ⟨?_, h.bound, h.fits⟩
  rw [size_insert_of_some index shards value hget]
  exact h.count_eq

theorem insert_of_none (hroom : count < maximum) (hget : get? index shards key = none) :
    Counted maximum (insert index shards key value) (count + 1) := by
  refine ⟨?_, hroom, h.fits⟩
  rw [size_insert_of_none index shards value hget]
  rw [h.count_eq]

theorem release_add_one
    (hget : get? index shards key = some value) : release count + 1 = count := by
  have hsize := size_erase index shards hget
  have hcount := h.count_eq
  have hbound := h.bound
  have hfits := h.fits
  unfold release
  omega

theorem erase (hget : get? index shards key = some value) :
    Counted maximum (Sharded.erase index shards key) (release count) := by
  have hsize := size_erase index shards hget
  have hrelease := h.release_add_one hget
  have hcount := h.count_eq
  have hbound := h.bound
  refine ⟨?_, ?_, h.fits⟩
  . omega
  . omega

end

end Counted

end Sharded
