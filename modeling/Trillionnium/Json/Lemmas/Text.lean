import Trillionnium.Json.Impl.Read

namespace Json

theorem utf8_ofList : utf8 (String.ofList cs) = cs.flatMap String.utf8EncodeChar := by
  unfold utf8
  rw [String.toByteArray_ofList, List.utf8Encode]
  simp

@[simp]
theorem ofUtf8?_utf8 (s : String) : ofUtf8? (utf8 s) = some s := by
  unfold ofUtf8? utf8
  simp only [Array.toArray_toList]
  unfold String.fromUTF8?
  rw [dif_pos s.isValidUTF8]
  rfl

namespace readString

theorem hexValue4_hexDigit : ∀ n < 32, hexValue4 48 48 (hexDigit (n / 16)) (hexDigit (n % 16)) = some n := by
  decide

theorem utf8EncodeChar_control : ∀ n < 32, String.utf8EncodeChar (Char.ofNat n) = [n.toUInt8] := by
  decide

theorem skip_append (taken rest : Bytes) :
    readString taken.length (taken ++ rest) = readString 0 rest := by
  induction taken with
  | nil => rfl
  | cons b taken ih =>
    simp only [List.length_cons, List.cons_append]
    rw [readString]
    exact ih

theorem escapeByte_cases :
    (∃ seq, escapeByte b = 92 :: seq ∧ ∀ rest, readEscape (seq ++ rest) = .ok ([b], seq.length))
    ∨ (escapeByte b = [b] ∧ b ≠ 34 ∧ b ≠ 92 ∧ ¬ b < 32) := by
  unfold escapeByte
  split_ifs with h34 h92 h8 h9 h10 h12 h13 h32
  . exact .inl ⟨[34], rfl, by intro rest; rw [h34]; rfl⟩
  . exact .inl ⟨[92], rfl, by intro rest; rw [h92]; rfl⟩
  . exact .inl ⟨[98], rfl, by intro rest; rw [h8]; rfl⟩
  . exact .inl ⟨[116], rfl, by intro rest; rw [h9]; rfl⟩
  . exact .inl ⟨[110], rfl, by intro rest; rw [h10]; rfl⟩
  . exact .inl ⟨[102], rfl, by intro rest; rw [h12]; rfl⟩
  . exact .inl ⟨[114], rfl, by intro rest; rw [h13]; rfl⟩
  . refine .inl ⟨_, rfl, ?_⟩
    intro rest
    have hlt : b.toNat < 32 := UInt8.lt_iff_toNat_lt.mp h32
    have hlow : ¬ (0xdc00 ≤ b.toNat ∧ b.toNat ≤ 0xdfff) := by omega
    have hhigh : ¬ (0xd800 ≤ b.toNat ∧ b.toNat ≤ 0xdbff) := by omega
    simp only [readEscape, List.cons_append, List.nil_append, hexValue4_hexDigit _ hlt, hlow, hhigh,
      utf8EncodeChar_control _ hlt, ↓reduceIte]
    simp
  . exact .inr ⟨rfl, h34, h92, h32⟩

end readString

@[simp]
theorem readString_escape : readString 0 (escape bytes ++ 34 :: rest) = .ok (bytes, rest) := by
  induction bytes with
  | nil => simp [escape, readString]
  | cons b bytes ih =>
    have hcons : escape (b :: bytes) ++ 34 :: rest = escapeByte b ++ (escape bytes ++ 34 :: rest) := by
      simp [escape]
    rw [hcons]
    rcases readString.escapeByte_cases with ⟨seq, hb, hseq⟩ | ⟨hb, h34, h92, h32⟩
    . rw [hb]
      simp only [List.cons_append]
      rw [readString]
      simp only [hseq, bind, Except.bind]
      rw [readString.skip_append]
      rw [ih]
      rfl
    . rw [hb]
      simp only [List.cons_append, List.nil_append]
      rw [readString]
      simp only [if_neg h34, if_neg h92, if_neg h32, ih]
      rfl

@[simp]
theorem readText_escape {s : String} :
    readText (escape (utf8 s) ++ 34 :: rest) = .ok (s, rest) := by
  unfold readText
  rw [readString_escape]
  simp only [bind, Except.bind, ofUtf8?_utf8]

theorem toNat_toUInt8_of_isDigit {c : Char} (h : c.isDigit = true) :
    Char.ofNat c.toNat.toUInt8.toNat = c ∧ isDigit c.toNat.toUInt8 = true := by
  have hge : 48 ≤ c.toNat := by
    simp only [Char.isDigit, Bool.and_eq_true, decide_eq_true_eq] at h
    exact h.1
  have hle : c.toNat ≤ 57 := by
    simp only [Char.isDigit, Bool.and_eq_true, decide_eq_true_eq] at h
    exact h.2
  have hmod : c.toNat.toUInt8.toNat = c.toNat := by
    simp only [Nat.toUInt8_eq, UInt8.toNat_ofNat']
    omega
  constructor
  . rw [hmod]
    exact Char.ofNat_toNat c
  . unfold isDigit
    simp only [Bool.and_eq_true, decide_eq_true_eq, UInt8.le_iff_toNat_le, hmod]
    exact ⟨hge, hle⟩

theorem all_isDigit_decimal (n : Nat) : (decimal n).all isDigit = true := by
  unfold decimal
  simp only [List.all_map, List.all_eq_true, Function.comp_apply]
  intro c hc
  exact (toNat_toUInt8_of_isDigit (Nat.isDigit_of_mem_toDigits (by omega) (by omega) hc)).2

theorem decimal_ne_nil (n : Nat) : decimal n ≠ [] := by
  unfold decimal
  simp

@[simp]
theorem decimalValue_decimal (n : Nat) : decimalValue (decimal n) = n := by
  unfold decimalValue decimal
  rw [List.map_map]
  have hid : (Nat.toDigits 10 n).map ((fun b : UInt8 => Char.ofNat b.toNat) ∘ fun c => c.toNat.toUInt8)
      = Nat.toDigits 10 n := by
    conv => rhs; rw [← List.map_id (Nat.toDigits 10 n)]
    apply List.map_congr_left
    intro c hc
    exact (toNat_toUInt8_of_isDigit (Nat.isDigit_of_mem_toDigits (by omega) (by omega) hc)).1
  rw [hid]
  exact Nat.ofDigitChars_ten_toDigits

theorem decimal_head (n : Nat) (hn : 0 < n) : ∃ d ds, decimal n = d :: ds ∧ d ≠ 48 := by
  induction n using Nat.strongRecOn with
  | _ n ih =>
    by_cases hlt : n < 10
    . have : ∀ m < 10, 0 < m → decimal m = [(48 + m).toUInt8] ∧ (48 + m).toUInt8 ≠ 48 := by decide
      exact ⟨_, [], this n hlt hn⟩
    . obtain ⟨d, ds, hd, hne⟩ := ih (n / 10) (by omega) (by omega)
      refine ⟨d, ds ++ [(n % 10).digitChar.toNat.toUInt8], ?_, hne⟩
      unfold decimal at hd ⊢
      rw [Nat.toDigits_of_base_le (by omega) (by omega)]
      simp [hd]

@[simp]
theorem isInteger_decimal (n : Nat) : isInteger (decimal n) = true := by
  have hall := all_isDigit_decimal n
  cases Nat.eq_zero_or_pos n with
  | inl h =>
    rw [h]
    decide
  | inr h =>
    obtain ⟨d, ds, hd, hne⟩ := decimal_head n h
    rw [hd] at hall ⊢
    simp only [List.all_cons, Bool.and_eq_true] at hall
    cases ds with
    | nil => simpa [isInteger] using hall.1
    | cons e es => simp [isInteger, hall, hne]

theorem isNumberByte_of_isDigit {b : UInt8} (h : isDigit b = true) : isNumberByte b = true := by
  unfold isNumberByte
  unfold isDigit at h
  simp [h]

theorem all_isNumberByte_writeNumber (codec : FloatCodec) (n : Number) :
    (writeNumber codec n).all isNumberByte = true := by
  have hdecimal : ∀ m, (decimal m).all isNumberByte = true := by
    intro m
    rw [List.all_eq_true]
    intro b hb
    exact isNumberByte_of_isDigit (List.all_eq_true.mp (all_isDigit_decimal m) b hb)
  cases n with
  | posInt n => exact hdecimal n
  | negInt m =>
    simp only [writeNumber, List.all_cons, hdecimal, Bool.and_true]
    decide
  | float f =>
    have := codec.isFloatToken_format f
    unfold isFloatToken at this
    simp only [Bool.and_eq_true] at this
    exact this.1.1

end Json
