import Trillionnium.Data.Sha256
import Trillionnium.Json.Lemmas.Text
import Trillionnium.Text.Checks

namespace Text

open Json

theorem utf8EncodeChar_hexDigit : ∀ n < 16,
    ∃ b, String.utf8EncodeChar (Sha256.hexDigit n) = [b] ∧ isSha256Byte b = true := by
  decide

theorem isSha256_hex : isSha256 (Sha256.hex message) = true := by
  -- Each byte of the digest gives two digits of one byte each.
  have hdigits : ∀ bytes : List UInt8,
      (utf8 (String.ofList (bytes.flatMap fun b =>
        [Sha256.hexDigit (b.toNat / 16), Sha256.hexDigit (b.toNat % 16)]))).length = 2 * bytes.length
      ∧ (utf8 (String.ofList (bytes.flatMap fun b =>
        [Sha256.hexDigit (b.toNat / 16), Sha256.hexDigit (b.toNat % 16)]))).all isSha256Byte = true := by
    intro bytes
    rw [utf8_ofList]
    induction bytes with
    | nil => exact ⟨rfl, rfl⟩
    | cons b bytes ih =>
      have hb := b.toNat_lt
      obtain ⟨high, hhigh, hhigh'⟩ := utf8EncodeChar_hexDigit (b.toNat / 16) (by omega)
      obtain ⟨low, hlow, hlow'⟩ := utf8EncodeChar_hexDigit (b.toNat % 16) (by omega)
      rw [List.flatMap_cons, List.flatMap_append]
      simp only [List.flatMap_cons, List.flatMap_nil, hhigh, hlow, List.append_nil]
      constructor
      . simp only [List.length_append, List.length_cons, List.length_nil, ih.1]
        omega
      . simp only [List.all_append, List.all_cons, List.all_nil, hhigh', hlow', ih.2, Bool.and_self]
  unfold isSha256 Sha256.hex
  rw [(hdigits _).1, (hdigits _).2]
  simp

end Text
