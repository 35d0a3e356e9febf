import Trillionnium.Json.Object

namespace Json

open List

variable (codec : FloatCodec)

def memberLength (field : String × Value) : Nat :=
  (writeString field.1).length + (write codec field.2).length + 2

theorem length_writeElements :
    (writeElements codec xs).length = (xs.map (fun x => (write codec x).length + 1)).sum := by
  induction xs with
  | nil => rfl
  | cons x xs ih =>
    rw [writeElements, map_cons, sum_cons, length_cons, length_append, ih]
    omega

theorem length_writeMembers (fields : List (String × Value)) :
    (writeMembers codec fields).length = (fields.map (memberLength codec)).sum := by
  induction fields with
  | nil => rfl
  | cons field fields ih =>
    rw [writeMembers, map_cons, sum_cons, length_cons, length_append,
      length_cons, length_append, ih, memberLength]
    omega

theorem length_write_array {α : Type} (f : α → Value) (xs : List α) :
    (write codec (.array (xs.map f))).length
      ≤ (xs.map (fun x => (write codec (f x)).length + 1)).sum + 2 := by
  cases xs with
  | nil => simp [write]
  | cons x xs =>
    rw [map_cons, write, length_cons, length_append, length_append,
      length_writeElements, map_map, map_cons, sum_cons, length_singleton]
    simp only [Function.comp_def]
    omega

theorem length_write_object (field : String × Value) (fields : List (String × Value)) :
    (write codec (.object (field :: fields))).length
      =
    ((field :: fields).map (memberLength codec)).sum + 1 := by
  rw [write, length_cons, length_append, length_cons, length_append,
    length_append, length_writeMembers, map_cons, sum_cons, length_singleton,
    memberLength]
  omega

theorem length_escapeByte (b : UInt8) : 1 ≤ (escapeByte b).length ∧ (escapeByte b).length ≤ 6 := by
  unfold escapeByte
  split_ifs <;> simp

theorem length_escape (bytes : Bytes) :
    bytes.length ≤ (escape bytes).length ∧ (escape bytes).length ≤ 6 * bytes.length := by
  induction bytes with
  | nil => simp [escape]
  | cons b bytes ih =>
    have := length_escapeByte b
    unfold escape at ih ⊢
    rw [flatMap_cons, length_append, length_cons]
    omega

theorem length_writeString (s : String) :
    (utf8 s).length + 2 ≤ (writeString s).length ∧ (writeString s).length ≤ 6 * (utf8 s).length + 2 := by
  have := length_escape (utf8 s)
  simp only [writeString, length_cons, length_append, length_nil]
  omega

theorem write_string (s : String) : write codec (.string s) = writeString s := by rw [write]

theorem length_write_nat {n : Nat} (h : n < 2 ^ 64) :
    (write codec (.number (.posInt n))).length ≤ 20 := by
  rw [write, writeNumber, decimal, length_map]
  have hpow : n < 10 ^ 20 := by omega
  exact (Nat.length_toDigits_le_iff (by decide) (by decide)).mpr hpow

section Object

theorem length_write_object_le (fields : List (String × Value)) :
    (fields.map (memberLength codec)).sum + 1 ≤ (write codec (.object fields)).length
      ∧ (write codec (.object fields)).length ≤ (fields.map (memberLength codec)).sum + 2 := by
  cases fields with
  | nil => simp [write]
  | cons field fields =>
    rw [length_write_object]
    omega

/-- The names of the members of a record are constants. -/
theorem length_write_record_le {members : List (String × Value)}
    (h : (members.map Prod.fst).all (fun name => (writeString name).length ≤ 32) = true) :
    (write codec (.object members)).length
      ≤ (members.map (fun member => (write codec member.2).length + 34)).sum + 2 := by
  apply Nat.le_trans (length_write_object_le codec members).2
  apply Nat.add_le_add_right
  apply sum_le_sum
  intro member hmember
  have hname := all_eq_true.mp h member.1 (mem_map_of_mem hmember)
  rw [decide_eq_true_eq] at hname
  unfold memberLength
  omega

theorem length_write_of_get? {d x : Document} {name : String} (h : d.get? name = some x) :
    (write codec x.value).length ≤ (write codec d.value).length := by
  obtain ⟨v, hv⟩ := d
  cases v with
  | object fields =>
    have hfind := (Document.get?_eq_iff rfl).mp h
    rw [Option.map_some, Option.map_eq_some_iff] at hfind
    obtain ⟨field, hfield, hx⟩ := hfind
    have hmem := mem_of_find?_eq_some hfield
    have hsum := single_le_sum (fun _ _ => Nat.zero_le _) _
      (mem_map_of_mem (f := memberLength codec) hmem)
    have hobject := length_write_object_le codec fields
    have hlength : (write codec x.value).length ≤ memberLength codec field := by
      unfold memberLength
      rw [hx]
      omega
    dsimp only
    omega
  | _ => cases h

end Object

end Json
