import Trillionnium.Json.Lemmas.RoundTrip

namespace Json

theorem lineFeed_not_mem_escape : 10 ∉ escape bytes := by
  unfold escape
  rw [List.mem_flatMap]
  rintro ⟨b, _, hb⟩
  unfold escapeByte at hb
  split_ifs at hb with h1 h2 h3 h4 h5 h6 h7 h8
  . exact absurd hb (by decide)
  . exact absurd hb (by decide)
  . exact absurd hb (by decide)
  . exact absurd hb (by decide)
  . exact absurd hb (by decide)
  . exact absurd hb (by decide)
  . exact absurd hb (by decide)
  . have hlt : b.toNat < 32 := UInt8.lt_iff_toNat_lt.mp h8
    have hdigits : ∀ n < 32, (10 : UInt8) ∉
        [92, 117, 48, 48, hexDigit (n / 16), hexDigit (n % 16)] := by decide
    exact hdigits b.toNat hlt hb
  . rw [List.mem_singleton] at hb
    exact h5 hb.symm

theorem lineFeed_not_mem_writeString (s : String) : 10 ∉ writeString s := by
  unfold writeString
  simp [lineFeed_not_mem_escape]

variable (codec : FloatCodec)

theorem lineFeed_not_mem_writeNumber (n : Number) : 10 ∉ writeNumber codec n := by
  intro hmem
  have hall := all_isNumberByte_writeNumber codec n
  rw [List.all_eq_true] at hall
  exact absurd (hall 10 hmem) (by decide)

mutual

theorem lineFeed_not_mem_write : (v : Value) → 10 ∉ write codec v
  | .null => by
    rw [write]
    decide
  | .bool true => by
    rw [write]
    decide
  | .bool false => by
    rw [write]
    decide
  | .number n => by
    rw [write]
    exact lineFeed_not_mem_writeNumber codec n
  | .string s => by
    rw [write]
    exact lineFeed_not_mem_writeString s
  | .array [] => by
    rw [write]
    decide
  | .array (x :: xs) => by
    rw [write]
    simp [lineFeed_not_mem_write x, lineFeed_not_mem_writeElements xs]
  | .object [] => by
    rw [write]
    decide
  | .object ((k, x) :: fields) => by
    rw [write]
    simp [lineFeed_not_mem_writeString k, lineFeed_not_mem_write x,
      lineFeed_not_mem_writeMembers fields]

theorem lineFeed_not_mem_writeElements : (xs : List Value) → 10 ∉ writeElements codec xs
  | [] => by simp [writeElements]
  | x :: xs => by
    rw [writeElements]
    simp [lineFeed_not_mem_write x, lineFeed_not_mem_writeElements xs]

theorem lineFeed_not_mem_writeMembers : (fields : List (String × Value)) →
    10 ∉ writeMembers codec fields
  | [] => by simp [writeMembers]
  | (k, x) :: fields => by
    rw [writeMembers]
    simp [lineFeed_not_mem_writeString k, lineFeed_not_mem_write x,
      lineFeed_not_mem_writeMembers fields]

end

theorem write_ne_nil : write codec v ≠ [] := by
  obtain ⟨b, rest, h, _⟩ := write_head codec
  rw [h]
  simp

end Json
