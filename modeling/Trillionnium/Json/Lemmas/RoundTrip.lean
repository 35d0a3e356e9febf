import Trillionnium.Data.Except
import Trillionnium.Json.Lemmas.Text

/-!
What the reader makes of a text that the writer produced: `readBack` of the value that was written
if the value stays within the recursion limit, and an error otherwise.
-/

namespace Json

open Except List

variable (codec : FloatCodec)

def readBackNumber (n : Number) : Option Number :=
  (readNumber codec (writeNumber codec n)).toOption

mutual

def readBack : Value → Option Value
  | .number n => (readBackNumber codec n).map .number
  | .array xs => (readBackList xs).map .array
  | .object fields => (readBackFields fields []).map .object
  | .null => some .null
  | .bool b => some (.bool b)
  | .string s => some (.string s)

def readBackList : List Value → Option (List Value)
  | [] => some []
  | x :: xs =>
    match readBack x with
    | none => none
    | some y => (readBackList xs).map (y :: ·)

def readBackFields : List (String × Value) → List (String × Value) → Option (List (String × Value))
  | [], acc => some acc
  | (k, x) :: fields, acc =>
    if acc.any (·.1 == k) then
      none
    else
      match readBack x with
      | none => none
      | some y => readBackFields fields (insertField k y acc)

end

def EndsNumber (rest : Bytes) : Prop := ∀ b, rest.head? = some b → isNumberByte b = false

theorem endsNumber_cons (h : isNumberByte b = false) : EndsNumber (b :: rest) := by
  intro c hc
  simp only [head?_cons, Option.some.injEq] at hc
  rw [← hc]
  exact h

theorem takeWhile_writeNumber {n : Number} (hrest : EndsNumber rest) :
    (writeNumber codec n ++ rest).takeWhile isNumberByte = writeNumber codec n
    ∧ (writeNumber codec n ++ rest).dropWhile isNumberByte = rest := by
  have hall := all_isNumberByte_writeNumber codec n
  rw [all_eq_true] at hall
  rw [takeWhile_append_of_pos hall, dropWhile_append_of_pos hall]
  cases rest with
  | nil => simp
  | cons b rest =>
    have hb : isNumberByte b = false := hrest b rfl
    simp [hb]

theorem isNumber_head (h : isNumber token = true) :
    ∃ b rest, token = b :: rest ∧ (b = 45 ∨ isDigit b = true) := by
  cases token with
  | nil => simp [isNumber, isNumber.unsigned] at h
  | cons b rest =>
    refine ⟨b, rest, rfl, ?_⟩
    by_cases h45 : b = 45
    . exact .inl h45
    . right
      rw [isNumber] at h
      . unfold isNumber.unsigned at h
        split at h
        . next heq =>
          simp only [cons.injEq] at heq
          rw [heq.1]
          decide
        . next heq =>
          simp only [cons.injEq] at heq
          simp only [Bool.and_eq_true] at h
          rw [heq.1]
          exact h.1
        . simp at h
      . intro _ heq
        simp only [cons.injEq] at heq
        exact h45 heq.1

theorem writeNumber_head (n : Number) :
    ∃ b rest, writeNumber codec n = b :: rest ∧ (b = 45 ∨ isDigit b = true) := by
  cases n with
  | posInt n =>
    have hall := all_isDigit_decimal n
    cases hd : decimal n with
    | nil => exact absurd hd (decimal_ne_nil n)
    | cons b rest =>
      rw [hd] at hall
      simp only [all_cons, Bool.and_eq_true] at hall
      exact ⟨b, rest, hd, .inr hall.1⟩
  | negInt m => exact ⟨45, decimal m, rfl, .inl rfl⟩
  | float f =>
    have := codec.isFloatToken_format f
    unfold isFloatToken at this
    simp only [Bool.and_eq_true] at this
    exact isNumber_head this.1.2

theorem numberHead_ne (h : b = 45 ∨ isDigit b = true) :
    isSpace b = false ∧ b ≠ 91 ∧ b ≠ 123 ∧ b ≠ 110 ∧ b ≠ 116 ∧ b ≠ 102 ∧ b ≠ 34 := by
  cases h with
  | inl h =>
    rw [h]
    decide
  | inr h =>
    unfold isDigit at h
    simp only [Bool.and_eq_true, decide_eq_true_eq, UInt8.le_iff_toNat_le] at h
    have hne : ∀ c : UInt8, (c.toNat < 48 ∨ 57 < c.toNat) → b ≠ c := by
      intro c hc heq
      rw [heq] at h
      have h48 : (48 : UInt8).toNat = 48 := rfl
      have h57 : (57 : UInt8).toNat = 57 := rfl
      omega
    refine ⟨?_, hne _ (by decide), hne _ (by decide), hne _ (by decide), hne _ (by decide),
      hne _ (by decide), hne _ (by decide)⟩
    unfold isSpace
    simp [hne 32 (by decide), hne 10 (by decide), hne 9 (by decide), hne 13 (by decide)]

section ReadWith

variable (nested : Except Error (Bytes → Except Error (Value × Bytes)))

theorem skipSpace_cons (h : isSpace b = false) : skipSpace (b :: rest) = b :: rest := by
  unfold skipSpace
  simp [h]

theorem readWith_number {n : Number} (hrest : EndsNumber rest) :
    (readWith codec nested (writeNumber codec n ++ rest)).toOption
      =
    (readBackNumber codec n).map (fun m => (Value.number m, rest)) := by
  obtain ⟨b, tail, hb, hkind⟩ := writeNumber_head codec n
  obtain ⟨hspace, h91, h123, h110, h116, h102, h34⟩ := numberHead_ne hkind
  obtain ⟨htake, hdrop⟩ := takeWhile_writeNumber codec hrest
  have hscalar : (decide (b = 45) || isDigit b) = true := by simpa using hkind
  unfold readWith
  rw [hb] at htake hdrop ⊢
  simp only [cons_append] at htake hdrop ⊢
  rw [skipSpace_cons hspace]
  simp only [if_neg h91, if_neg h123]
  unfold readScalar
  simp only [if_neg h110, if_neg h116, if_neg h102, if_neg h34, hscalar, htake, hdrop, ↓reduceIte]
  rw [toOption_bind]
  unfold readBackNumber
  rw [hb]
  cases (readNumber codec (b :: tail)).toOption with
  | none | some _ => rfl

theorem readWith_string {s : String} :
    readWith codec nested (writeString s ++ rest) = .ok (.string s, rest) := by
  unfold writeString readWith
  simp only [cons_append, append_assoc, nil_append]
  rw [skipSpace_cons (by decide)]
  unfold readScalar
  simp only [readText_escape]
  rfl

end ReadWith

def readBackWithin (depth : Nat) (v : Value) : Option Value :=
  if v.depth ≤ depth then readBack codec v else none

def ReadsBack (depth : Nat) (read : Bytes → Except Error (Value × Bytes)) : Prop :=
  ∀ v rest, EndsNumber rest →
    (read (write codec v ++ rest)).toOption = (readBackWithin codec depth v).map (·, rest)

section Containers

variable {codec}
variable {depth : Nat} {read : Bytes → Except Error (Value × Bytes)}

theorem endsNumber_elements : EndsNumber (writeElements codec xs ++ 93 :: rest) := by
  cases xs with
  | nil => exact endsNumber_cons (by decide)
  | cons x xs =>
    rw [writeElements]
    exact endsNumber_cons (by decide)

theorem endsNumber_members {fields : List (String × Value)} :
    EndsNumber (writeMembers codec fields ++ 125 :: rest) := by
  cases fields with
  | nil => exact endsNumber_cons (by decide)
  | cons field fields =>
    obtain ⟨k, x⟩ := field
    rw [writeMembers]
    exact endsNumber_cons (by decide)

theorem toOption_readElements (hread : ReadsBack codec depth read) (x : Value) (xs : List Value)
    (rest : Bytes) (fuel : Nat) (hfuel : xs.length < fuel) :
    (readElements read fuel (write codec x ++ (writeElements codec xs ++ 93 :: rest))).toOption
      =
    if Value.depthList (x :: xs) ≤ depth then
      (readBackList codec (x :: xs)).map (·, rest)
    else
      none := by
  induction fuel generalizing x xs with
  | zero => cases hfuel
  | succ fuel ih =>
    rw [readElements, toOption_bind, hread x _ endsNumber_elements]
    rw [Value.depthList, readBackList]
    unfold readBackWithin
    by_cases hx : x.depth ≤ depth
    . rw [if_pos hx]
      cases readBack codec x with
      | none => simp
      | some x' =>
        cases xs with
        | nil =>
          rw [Value.depthList, if_pos (by omega)]
          rfl
        | cons y ys =>
          have hnext : skipSpace (writeElements codec (y :: ys) ++ 93 :: rest)
              = 44 :: (write codec y ++ (writeElements codec ys ++ 93 :: rest)) := by
            rw [writeElements]
            simp only [cons_append, append_assoc]
            exact skipSpace_cons (by decide)
          simp only [Option.map_some, Option.bind_some, hnext, ↓reduceIte]
          rw [toOption_bind, ih y ys (Nat.lt_of_succ_lt_succ hfuel)]
          by_cases hxs : Value.depthList (y :: ys) ≤ depth
          . rw [if_pos hxs, if_pos (by omega)]
            cases readBackList codec (y :: ys) with
            | none | some _ => rfl
          . rw [if_neg hxs, if_neg (by omega)]
            rfl
    . rw [if_neg hx, if_neg (by omega)]
      rfl

theorem toOption_readMembers (hread : ReadsBack codec depth read) (k : String) (x : Value)
    (fields : List (String × Value)) (acc : List (String × Value)) (rest : Bytes) (fuel : Nat)
    (hfuel : fields.length < fuel) :
    (readMembers read fuel acc
      (writeString k ++ (58 :: (write codec x ++ (writeMembers codec fields ++ 125 :: rest))))).toOption
      =
    if Value.depthFields ((k, x) :: fields) ≤ depth then
      (readBackFields codec ((k, x) :: fields) acc).map (·, rest)
    else
      none := by
  induction fuel generalizing k x fields acc with
  | zero => cases hfuel
  | succ fuel ih =>
    rw [readMembers, readBackFields, Value.depthFields]
    conv => lhs; unfold writeString
    simp only [cons_append, append_assoc, nil_append]
    rw [skipSpace_cons (by decide)]
    simp only [↓reduceIte, toOption_bind, readText_escape, toOption_ok, Option.bind_some]
    by_cases hdup : acc.any (·.1 == k) = true
    . simp [hdup]
    . simp only [hdup, Bool.false_eq_true, ↓reduceIte]
      rw [skipSpace_cons (by decide)]
      simp only [↓reduceIte, toOption_bind]
      rw [hread x _ endsNumber_members]
      unfold readBackWithin
      by_cases hx : x.depth ≤ depth
      . rw [if_pos hx]
        cases readBack codec x with
        | none => simp
        | some x' =>
          cases fields with
          | nil =>
            rw [Value.depthFields, if_pos (by omega)]
            rfl
          | cons field fields =>
            obtain ⟨l, y⟩ := field
            have hnext : skipSpace (writeMembers codec ((l, y) :: fields) ++ 125 :: rest)
                = 44 :: (writeString l
                  ++ (58 :: (write codec y ++ (writeMembers codec fields ++ 125 :: rest)))) := by
              rw [writeMembers]
              simp only [cons_append, append_assoc]
              exact skipSpace_cons (by decide)
            simp only [Option.map_some, Option.bind_some, hnext, ↓reduceIte]
            rw [ih l y fields (insertField k x' acc) (Nat.lt_of_succ_lt_succ hfuel)]
            by_cases hxs : Value.depthFields ((l, y) :: fields) ≤ depth
            . rw [if_pos hxs, if_pos (by omega)]
            . rw [if_neg hxs, if_neg (by omega)]
      . rw [if_neg hx, if_neg (by omega)]
        rfl

theorem length_le_writeElements (xs : List Value) : xs.length ≤ (writeElements codec xs).length := by
  induction xs with
  | nil => simp
  | cons x xs ih =>
    rw [writeElements]
    simp only [length_cons, length_append]
    omega

theorem length_le_writeMembers (fields : List (String × Value)) :
    fields.length ≤ (writeMembers codec fields).length := by
  induction fields with
  | nil => simp
  | cons field fields ih =>
    obtain ⟨k, x⟩ := field
    rw [writeMembers]
    simp only [length_cons, length_append]
    omega

end Containers

theorem write_head : ∃ b rest, write codec v = b :: rest ∧ isSpace b = false ∧ b ≠ 93 := by
  cases v with
  | null | string _ => exact ⟨_, _, rfl, by decide, by decide⟩
  | bool b => cases b <;> exact ⟨_, _, rfl, by decide, by decide⟩
  | number n =>
    obtain ⟨b, rest, hb, hkind⟩ := writeNumber_head codec n
    refine ⟨b, rest, by rw [write, hb], (numberHead_ne hkind).1, ?_⟩
    intro h93
    rw [h93] at hkind
    exact absurd hkind (by decide)
  | array xs => cases xs <;> exact ⟨_, _, by rw [write], by decide, by decide⟩
  | object fields =>
    cases fields with
    | nil | cons _ _ => exact ⟨_, _, by rw [write], by decide, by decide⟩

def nestedReader : Nat → Except Error (Bytes → Except Error (Value × Bytes))
  | 0 => .error .recursionLimitExceeded
  | depth + 1 => .ok (readValue codec depth)

theorem readValue_eq_readWith (depth : Nat) :
    readValue codec depth = readWith codec (nestedReader codec depth) := by
  cases depth with
  | zero | succ _ => rfl

theorem readWith_array_cons {nested : Except Error (Bytes → Except Error (Value × Bytes))}
    {x : Value} :
    (readWith codec nested (write codec (.array (x :: xs)) ++ rest)).toOption
      =
    nested.toOption.bind (fun read =>
      let input := write codec x ++ (writeElements codec xs ++ 93 :: rest)
      (readElements read (input.length + 1) input).toOption.map (fun (ys, rest) => (.array ys, rest))) := by
  obtain ⟨b, tail, hb, hspace, h93⟩ := write_head codec
  rw [write]
  unfold readWith
  simp only [cons_append, append_assoc, nil_append]
  rw [skipSpace_cons (by decide)]
  simp only [↓reduceIte, toOption_bind]
  rw [hb]
  simp only [cons_append]
  rw [skipSpace_cons hspace]
  congr 1
  funext read
  split
  . next heq =>
    simp only [cons.injEq] at heq
    exact absurd heq.1 h93
  . rw [toOption_bind]
    cases (readElements read _ _).toOption with
    | none | some _ => rfl

theorem readWith_object_cons {nested : Except Error (Bytes → Except Error (Value × Bytes))}
    {x : Value} {fields : List (String × Value)} :
    (readWith codec nested (write codec (.object ((k, x) :: fields)) ++ rest)).toOption
      =
    nested.toOption.bind (fun read =>
      let input := writeString k ++ (58 :: (write codec x ++ (writeMembers codec fields ++ 125 :: rest)))
      (readMembers read (input.length + 1) [] input).toOption.map
        (fun (ys, rest) => (.object ys, rest))) := by
  have hkey : ∃ tail, writeString k = 34 :: tail := ⟨_, rfl⟩
  obtain ⟨tail, hb⟩ := hkey
  rw [write]
  unfold readWith
  simp only [cons_append, append_assoc, nil_append]
  rw [skipSpace_cons (by decide)]
  simp only [(by decide : ¬(123 : UInt8) = 91), ↓reduceIte, toOption_bind]
  rw [hb]
  simp only [cons_append]
  rw [skipSpace_cons (by decide)]
  congr 1
  funext read
  split
  . next heq => simp at heq
  . rw [toOption_bind]
    cases (readMembers read _ _ _).toOption with
    | none | some _ => rfl

theorem readsBack_readValue (depth : Nat) : ReadsBack codec depth (readValue codec depth) := by
  -- The induction is on the nesting that is left: the elements of a container have one level less
  -- and each of them is covered by the hypothesis, whatever its own shape.
  induction depth with
  | zero =>
    intro v rest hrest
    rw [readValue_eq_readWith]
    cases v with
    | null => rfl
    | bool b => cases b <;> rfl
    | number n =>
      rw [write, readWith_number codec _ hrest]
      simp [readBackWithin, Value.depth, readBack, Function.comp_def]
    | string s =>
      rw [write, readWith_string]
      rfl
    | array xs =>
      cases xs with
      | nil => rfl
      | cons x xs =>
        rw [readWith_array_cons]
        simp [nestedReader, readBackWithin, Value.depth]
    | object fields =>
      cases fields with
      | nil => rfl
      | cons field fields =>
        obtain ⟨k, x⟩ := field
        rw [readWith_object_cons]
        simp [nestedReader, readBackWithin, Value.depth]
  | succ depth ih =>
    intro v rest hrest
    rw [readValue_eq_readWith]
    cases v with
    | null => rfl
    | bool b => cases b <;> rfl
    | number n =>
      rw [write, readWith_number codec _ hrest]
      simp [readBackWithin, Value.depth, readBack, Function.comp_def]
    | string s =>
      rw [write, readWith_string]
      rfl
    | array xs =>
      cases xs with
      | nil => rfl
      | cons x xs =>
        rw [readWith_array_cons]
        simp only [nestedReader, toOption_ok, Option.bind_some]
        rw [toOption_readElements ih]
        . unfold readBackWithin
          rw [Value.depth, readBack]
          by_cases h : Value.depthList (x :: xs) ≤ depth
          . rw [if_pos h, if_pos (by omega)]
            cases readBackList codec (x :: xs) with
            | none | some _ => rfl
          . rw [if_neg h, if_neg (by omega)]
            rfl
        . have := @length_le_writeElements codec xs
          simp only [length_append]
          omega
    | object fields =>
      cases fields with
      | nil => rfl
      | cons field fields =>
        obtain ⟨k, x⟩ := field
        rw [readWith_object_cons]
        simp only [nestedReader, toOption_ok, Option.bind_some]
        rw [toOption_readMembers ih]
        . unfold readBackWithin
          rw [Value.depth, readBack]
          by_cases h : Value.depthFields ((k, x) :: fields) ≤ depth
          . rw [if_pos h, if_pos (by omega)]
            cases readBackFields codec ((k, x) :: fields) [] with
            | none | some _ => rfl
          . rw [if_neg h, if_neg (by omega)]
            rfl
        . have := @length_le_writeMembers codec fields
          simp only [length_append, length_cons]
          omega

theorem endsNumber_of_space (rest : Bytes) (h : rest.all isSpace = true) : EndsNumber rest := by
  cases rest with
  | nil =>
    intro b hb
    simp at hb
  | cons b rest =>
    simp only [all_cons, Bool.and_eq_true] at h
    apply endsNumber_cons
    unfold isSpace at h
    simp only [Bool.or_eq_true, beq_iff_eq] at h
    rcases h.1 with ((h | h) | h) | h <;> rw [h] <;> decide

theorem toOption_read_write {rest : Bytes} (h : rest.all isSpace = true) :
    (read codec (write codec v ++ rest)).toOption = readBackWithin codec (recursionLimit - 1) v := by
  unfold read
  rw [toOption_bind]
  rw [readsBack_readValue codec _ v rest (endsNumber_of_space rest h)]
  have hskip : skipSpace rest = [] := by
    unfold skipSpace
    rw [dropWhile_eq_nil_iff]
    exact all_eq_true.mp h
  cases readBackWithin codec (recursionLimit - 1) v with
  | none => rfl
  | some y =>
    simp only [Option.map_some, Option.bind_some, hskip]
    rfl

end Json
