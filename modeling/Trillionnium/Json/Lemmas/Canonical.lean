import Trillionnium.Json.Lemmas.RoundTrip

/-!
The values that a program holds are canonical, and so are the ones that the reader returns. For a
canonical value only its doubles can get lost on the way through the text form.
-/

namespace Json

open Value

variable {k : String} {x : Value} {fields : List (String × Value)}

theorem sortedKeys_cons :
    sortedKeys ((k, x) :: fields) = true ↔ (∀ f ∈ fields, k < f.1) ∧ sortedKeys fields = true := by
  induction fields generalizing k x with
  | nil => simp [sortedKeys]
  | cons field fields ih =>
    obtain ⟨l, y⟩ := field
    rw [sortedKeys]
    simp only [Bool.and_eq_true, decide_eq_true_eq, List.mem_cons, forall_eq_or_imp]
    constructor
    . intro ⟨hlt, hsorted⟩
      refine ⟨⟨hlt, ?_⟩, hsorted⟩
      intro f hf
      exact lt_trans hlt ((ih.mp hsorted).1 f hf)
    . intro ⟨⟨hlt, _⟩, hsorted⟩
      exact ⟨hlt, hsorted⟩

theorem sortedKeys_iff_pairwise :
    sortedKeys fields = true ↔ (fields.map Prod.fst).Pairwise (· < ·) := by
  induction fields with
  | nil => simp [sortedKeys]
  | cons field fields ih =>
    obtain ⟨k, x⟩ := field
    rw [sortedKeys_cons, ih, List.map_cons, List.pairwise_cons]
    simp

theorem sortedKeys_append_cons (h : sortedKeys (fields ++ (k, x) :: rest) = true) :
    ∀ f ∈ fields, f.1 < k := by
  induction fields with
  | nil => simp
  | cons field fields ih =>
    obtain ⟨l, y⟩ := field
    rw [List.cons_append, sortedKeys_cons] at h
    intro f hf
    cases List.mem_cons.mp hf with
    | inl hf =>
      rw [hf]
      exact h.1 (k, x) (by simp)
    | inr hf => exact ih h.2 f hf

theorem insertField_eq_append (h : ∀ f ∈ fields, f.1 < k) :
    insertField k x fields = fields ++ [(k, x)] := by
  induction fields with
  | nil => rfl
  | cons field fields ih =>
    obtain ⟨l, y⟩ := field
    have hlt : l < k := h (l, y) (by simp)
    rw [insertField, if_neg (lt_asymm hlt), if_neg (ne_of_gt hlt)]
    rw [ih (fun f hf => h f (by simp [hf]))]
    rfl

theorem any_key_eq_false (h : ∀ f ∈ fields, f.1 ≠ k) : fields.any (·.1 == k) = false := by
  rw [List.any_eq_false]
  intro f hf
  simpa using h f hf

theorem mem_insertField {f : String × Value} (h : f ∈ insertField k x fields) :
    f = (k, x) ∨ f ∈ fields := by
  induction fields with
  | nil => simpa [insertField] using h
  | cons field fields ih =>
    obtain ⟨l, y⟩ := field
    rw [insertField] at h
    split_ifs at h
    . simpa using h
    . simp only [List.mem_cons] at h ⊢
      tauto
    . simp only [List.mem_cons] at h ⊢
      cases h with
      | inl h => exact .inr (.inl h)
      | inr h =>
        have := ih h
        tauto

theorem sortedKeys_insertField {x : Value} (h : sortedKeys fields = true) :
    sortedKeys (insertField k x fields) = true := by
  induction fields with
  | nil => rfl
  | cons field fields ih =>
    obtain ⟨l, y⟩ := field
    rw [sortedKeys_cons] at h
    rw [insertField]
    split_ifs with hlt heq
    . rw [sortedKeys_cons, sortedKeys_cons]
      refine ⟨?_, h⟩
      intro f hf
      cases List.mem_cons.mp hf with
      | inl hf =>
        rw [hf]
        exact hlt
      | inr hf => exact lt_trans hlt (h.1 f hf)
    . rw [sortedKeys_cons, heq]
      exact h
    . rw [sortedKeys_cons]
      refine ⟨?_, ih h.2⟩
      intro f hf
      cases mem_insertField hf with
      | inl hf =>
        rw [hf]
        exact lt_of_le_of_ne (le_of_not_gt hlt) (Ne.symm heq)
      | inr hf => exact h.1 f hf

theorem canonicalList_iff : canonicalList xs = true ↔ ∀ x ∈ xs, x.canonical = true := by
  induction xs with
  | nil => simp [canonicalList]
  | cons x xs ih => simp [canonicalList, ih]

theorem canonicalFields_iff :
    canonicalFields fields = true ↔ ∀ f ∈ fields, f.2.canonical = true := by
  induction fields with
  | nil => simp [canonicalFields]
  | cons field fields ih =>
    obtain ⟨k, x⟩ := field
    simp [canonicalFields, ih]

theorem canonicalFields_insertField (hx : x.canonical = true) (h : canonicalFields fields = true) :
    canonicalFields (insertField k x fields) = true := by
  rw [canonicalFields_iff] at h ⊢
  intro f hf
  cases mem_insertField hf with
  | inl hf =>
    rw [hf]
    exact hx
  | inr hf => exact h f hf

variable (codec : FloatCodec)

mutual

def FloatsReadBack : Value → Prop
  | .number (.float f) => codec.parse (codec.format f) = some f
  | .array xs => FloatsReadBackList xs
  | .object fields => FloatsReadBackFields fields
  | _ => True

def FloatsReadBackList : List Value → Prop
  | [] => True
  | x :: xs => FloatsReadBack x ∧ FloatsReadBackList xs

def FloatsReadBackFields : List (String × Value) → Prop
  | [] => True
  | (_, x) :: fields => FloatsReadBack x ∧ FloatsReadBackFields fields

end

theorem readBackNumber_posInt {n : Nat} (h : n < 2 ^ 64) :
    readBackNumber codec (.posInt n) = some (.posInt n) := by
  unfold readBackNumber writeNumber readNumber
  have hhead : ∀ ds, decimal n ≠ 45 :: ds := by
    intro ds heq
    have := all_isDigit_decimal n
    rw [heq] at this
    simp [isDigit] at this
  split
  . next ds heq => exact absurd heq (hhead ds)
  . rw [isInteger_decimal, decimalValue_decimal]
    rw [if_pos (by simpa using h)]
    rfl

theorem readBackNumber_negInt (hpos : 0 < m) (h : m ≤ 2 ^ 63) :
    readBackNumber codec (.negInt m) = some (.negInt m) := by
  unfold readBackNumber writeNumber readNumber
  simp only [isInteger_decimal, decimalValue_decimal]
  rw [if_pos (by simpa [hpos] using h)]
  rfl

theorem readNumber_float {f : F64} :
    readNumber codec (codec.format f) = readFloat codec (codec.format f) := by
  have htoken := codec.isFloatToken_format f
  unfold isFloatToken at htoken
  simp only [Bool.and_eq_true] at htoken
  -- A byte of the fraction or exponent marks the text as something else than an integer.
  obtain ⟨b, hmem, hb⟩ := List.any_eq_true.mp htoken.2
  have hdigit : isDigit b = false := by
    simp only [Bool.or_eq_true, beq_iff_eq] at hb
    rcases hb with (hb | hb) | hb <;> rw [hb] <;> decide
  have hnot : ∀ digits, b ∈ digits → isInteger digits = false := by
    intro digits hin
    unfold isInteger
    split
    . rfl
    . next d =>
      rw [List.mem_singleton] at hin
      rw [← hin]
      exact hdigit
    . next d ds _ =>
      cases List.mem_cons.mp hin with
      | inl hin =>
        rw [← hin, hdigit]
        rfl
      | inr hin =>
        have : ds.all isDigit = false := by
          rw [List.all_eq_false]
          exact ⟨b, hin, by simp [hdigit]⟩
        rw [this]
        simp
  unfold readNumber
  split
  . next digits heq =>
    have hin : b ∈ digits := by
      rw [heq] at hmem
      cases List.mem_cons.mp hmem with
      | inl hin =>
        rw [hin] at hb
        exact absurd hb (by decide)
      | inr hin => exact hin
    rw [hnot digits hin]
    simp
  . rw [hnot _ hmem]
    simp

theorem readBackNumber_float {f : F64} (h : codec.parse (codec.format f) = some f) :
    readBackNumber codec (.float f) = some (.float f) := by
  have htoken := codec.isFloatToken_format f
  unfold isFloatToken at htoken
  simp only [Bool.and_eq_true] at htoken
  unfold readBackNumber writeNumber
  simp only
  rw [readNumber_float]
  unfold readFloat
  rw [htoken.1.2, h]
  rfl

theorem readBackNumber_canonical {n : Number} (hcanonical : n.canonical = true)
    (hfloat : FloatsReadBack codec (.number n)) : readBackNumber codec n = some n := by
  cases n with
  | posInt n =>
    apply readBackNumber_posInt
    simpa [Number.canonical] using hcanonical
  | negInt m =>
    simp only [Number.canonical, Bool.and_eq_true, decide_eq_true_eq] at hcanonical
    exact readBackNumber_negInt codec hcanonical.1 hcanonical.2
  | float f =>
    apply readBackNumber_float
    simpa [FloatsReadBack] using hfloat

mutual

theorem readBack_canonical : (v : Value) → v.canonical = true → FloatsReadBack codec v →
    readBack codec v = some v
  | .null, _, _ => rfl
  | .bool _, _, _ => rfl
  | .string _, _, _ => rfl
  | .number n, hcanonical, hfloat => by
    rw [readBack, readBackNumber_canonical codec (by simpa [canonical] using hcanonical) hfloat]
    rfl
  | .array xs, hcanonical, hfloat => by
    rw [canonical] at hcanonical
    rw [FloatsReadBack] at hfloat
    rw [readBack, readBackList_canonical xs hcanonical hfloat]
    rfl
  | .object fields, hcanonical, hfloat => by
    rw [canonical, Bool.and_eq_true] at hcanonical
    rw [FloatsReadBack] at hfloat
    rw [readBack, readBackFields_canonical fields [] hcanonical.1 hcanonical.2 hfloat]
    rfl

theorem readBackList_canonical : (xs : List Value) → canonicalList xs = true →
    FloatsReadBackList codec xs → readBackList codec xs = some xs
  | [], _, _ => rfl
  | x :: xs, hcanonical, hfloat => by
    rw [canonicalList, Bool.and_eq_true] at hcanonical
    rw [FloatsReadBackList] at hfloat
    rw [readBackList, readBack_canonical x hcanonical.1 hfloat.1]
    rw [readBackList_canonical xs hcanonical.2 hfloat.2]
    rfl

theorem readBackFields_canonical : (fields : List (String × Value)) → (acc : List (String × Value)) →
    sortedKeys (acc ++ fields) = true → canonicalFields fields = true →
    FloatsReadBackFields codec fields → readBackFields codec fields acc = some (acc ++ fields)
  | [], acc, _, _, _ => by
    rw [readBackFields]
    simp
  | (k, x) :: fields, acc, hsorted, hcanonical, hfloat => by
    rw [canonicalFields, Bool.and_eq_true] at hcanonical
    rw [FloatsReadBackFields] at hfloat
    have hlt := sortedKeys_append_cons hsorted
    rw [readBackFields, any_key_eq_false (fun f hf => ne_of_lt (hlt f hf))]
    rw [readBack_canonical x hcanonical.1 hfloat.1]
    simp only [Bool.false_eq_true, ↓reduceIte]
    rw [insertField_eq_append hlt]
    rw [readBackFields_canonical fields _ (by simpa using hsorted) hcanonical.2 hfloat.2]
    simp

end

section Reader

open Except

variable {codec}

def ReadsCanonical (read : Bytes → Except Error (Value × Bytes)) : Prop :=
  ∀ input x rest, read input = .ok (x, rest) → x.canonical = true

theorem canonical_readFloat {n : Number} (h : readFloat codec token = .ok n) :
    n.canonical = true := by
  unfold readFloat at h
  split_ifs at h
  split at h
  . cases h
    rfl
  . cases h

theorem canonical_readNumber {n : Number} (h : readNumber codec token = .ok n) :
    n.canonical = true := by
  unfold readNumber at h
  split at h
  . split_ifs at h with hcond
    . cases h
      simp only [Bool.and_eq_true, decide_eq_true_eq] at hcond
      simp [Number.canonical, hcond.1.2]
      simpa using hcond.2
    . exact canonical_readFloat h
  . split_ifs at h with hcond
    . cases h
      simp only [Bool.and_eq_true, decide_eq_true_eq] at hcond
      simpa [Number.canonical] using hcond.2
    . exact canonical_readFloat h

variable {read : Bytes → Except Error (Value × Bytes)}

variable {input rest : Bytes}

theorem canonical_readElements (hread : ReadsCanonical read)
    (h : readElements read fuel input = .ok (xs, rest)) : canonicalList xs = true := by
  induction fuel generalizing input xs rest with
  | zero => simp [readElements] at h
  | succ fuel ih =>
    rw [readElements, bind_eq_ok] at h
    obtain ⟨⟨x, afterValue⟩, hx, h⟩ := h
    have hx := hread _ _ _ hx
    dsimp only at h
    split at h
    . cases h
    . split_ifs at h
      . rw [bind_eq_ok] at h
        obtain ⟨⟨ys, afterRest⟩, hys, h⟩ := h
        cases h
        simp [canonicalList, hx, ih hys]
      . cases h
        simp [canonicalList, hx]

theorem canonical_readMembers (hread : ReadsCanonical read) {fields : List (String × Value)}
    (hacc : Value.canonical (.object acc) = true)
    (h : readMembers read fuel acc input = .ok (fields, rest)) :
    Value.canonical (.object fields) = true := by
  induction fuel generalizing input acc with
  | zero => simp [readMembers] at h
  | succ fuel ih =>
    rw [readMembers] at h
    split at h
    . cases h
    . split_ifs at h
      rw [bind_eq_ok] at h
      obtain ⟨⟨key, afterKey⟩, _, h⟩ := h
      dsimp only at h
      split_ifs at h
      split at h
      . cases h
      . split_ifs at h
        rw [bind_eq_ok] at h
        obtain ⟨⟨x, afterValue⟩, hx, h⟩ := h
        have hx := hread _ _ _ hx
        have hinsert : Value.canonical (.object (insertField key x acc)) = true := by
          rw [canonical, Bool.and_eq_true] at hacc ⊢
          exact ⟨sortedKeys_insertField hacc.1, canonicalFields_insertField hx hacc.2⟩
        dsimp only at h
        split at h
        . cases h
        . split_ifs at h
          . exact ih hinsert h
          . cases h
            exact hinsert

theorem canonical_readScalar (h : readScalar codec b input = .ok (v, rest)) :
    v.canonical = true := by
  unfold readScalar at h
  split_ifs at h
  . split at h
    . cases h
      rfl
    . cases h
  . split at h
    . cases h
      rfl
    . cases h
  . split at h
    . cases h
      rfl
    . cases h
  . rw [bind_eq_ok] at h
    obtain ⟨_, _, h⟩ := h
    cases h
    rfl
  . rw [bind_eq_ok] at h
    obtain ⟨n, hn, h⟩ := h
    cases h
    rw [canonical]
    exact canonical_readNumber hn

theorem canonical_readWith {nested : Except Error (Bytes → Except Error (Value × Bytes))}
    (hnested : ∀ read, nested = .ok read → ReadsCanonical read) :
    ReadsCanonical (readWith codec nested) := by
  intro input v rest h
  unfold readWith at h
  split at h
  . cases h
  . split_ifs at h
    . rw [bind_eq_ok] at h
      obtain ⟨read, hread, h⟩ := h
      split at h
      . cases h
        rfl
      . rw [bind_eq_ok] at h
        obtain ⟨⟨xs, afterArray⟩, hxs, h⟩ := h
        cases h
        rw [canonical]
        exact canonical_readElements (hnested read hread) hxs
    . rw [bind_eq_ok] at h
      obtain ⟨read, hread, h⟩ := h
      split at h
      . cases h
        rfl
      . rw [bind_eq_ok] at h
        obtain ⟨⟨fields, afterObject⟩, hfields, h⟩ := h
        cases h
        exact canonical_readMembers (hnested read hread) rfl hfields
    . exact canonical_readScalar h

theorem canonical_readValue (depth : Nat) : ReadsCanonical (readValue codec depth) := by
  induction depth with
  | zero =>
    rw [readValue]
    apply canonical_readWith
    intro read h
    cases h
  | succ depth ih =>
    rw [readValue]
    apply canonical_readWith
    intro read h
    cases h
    exact ih

theorem canonical_read (h : Json.read codec input = .ok v) : v.canonical = true := by
  unfold Json.read at h
  rw [bind_eq_ok] at h
  obtain ⟨⟨x, rest⟩, hx, h⟩ := h
  dsimp only at h
  split at h
  . cases h
    exact canonical_readValue _ _ _ _ hx
  . cases h

end Reader

mutual

theorem canonical_readBack : (v w : Value) → readBack codec v = some w → w.canonical = true
  | .null, w, h => by
    cases h
    rfl
  | .bool _, w, h => by
    cases h
    rfl
  | .string _, w, h => by
    cases h
    rfl
  | .number n, w, h => by
    simp only [readBack, Option.map_eq_some_iff] at h
    obtain ⟨m, hm, rfl⟩ := h
    rw [canonical]
    exact canonical_readNumber (Except.toOption_eq_some.mp hm)
  | .array xs, w, h => by
    simp only [readBack, Option.map_eq_some_iff] at h
    obtain ⟨ys, hys, rfl⟩ := h
    rw [canonical]
    exact canonicalList_readBack xs ys hys
  | .object fields, w, h => by
    simp only [readBack, Option.map_eq_some_iff] at h
    obtain ⟨ys, hys, rfl⟩ := h
    exact canonical_readBackFields fields [] ys rfl hys

theorem canonicalList_readBack : (xs ys : List Value) → readBackList codec xs = some ys →
    canonicalList ys = true
  | [], ys, h => by
    cases h
    rfl
  | x :: xs, ys, h => by
    rw [readBackList] at h
    cases hx : readBack codec x with
    | none => simp [hx] at h
    | some y =>
      simp only [hx, Option.map_eq_some_iff] at h
      obtain ⟨zs, hzs, rfl⟩ := h
      rw [canonicalList, canonical_readBack x y hx, canonicalList_readBack xs zs hzs]
      rfl

theorem canonical_readBackFields : (fields acc ys : List (String × Value)) →
    Value.canonical (.object acc) = true → readBackFields codec fields acc = some ys →
    Value.canonical (.object ys) = true
  | [], acc, ys, hacc, h => by
    cases h
    exact hacc
  | (k, x) :: fields, acc, ys, hacc, h => by
    rw [readBackFields] at h
    split_ifs at h
    cases hx : readBack codec x with
    | none => simp [hx] at h
    | some y =>
      simp only [hx] at h
      apply canonical_readBackFields fields _ ys _ h
      rw [canonical, Bool.and_eq_true] at hacc ⊢
      exact ⟨sortedKeys_insertField hacc.1,
        canonicalFields_insertField (canonical_readBack x y hx) hacc.2⟩

end

end Json
