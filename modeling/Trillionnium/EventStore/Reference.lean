import Trillionnium.Data.Sha256
import Trillionnium.EventStore.Impl.Record

/-!
Externals to run the store with: the SHA-256 digest and a text form of doubles that spells out
their bits.
-/

namespace EventStore

open Json

namespace bitsCodec

def format (f : F64) : Bytes := 49 :: 101 :: decimal f.bits.toNat

def parse (token : Bytes) : Option F64 :=
  let bits := BitVec.ofNat 64 (decimalValue (token.drop 2))
  if h : (bits >>> 52) &&& 0x7ff ≠ 0x7ff then some ⟨bits, h⟩ else none

theorem isFloatToken_format (f : F64) : isFloatToken (format f) = true := by
  have hdigits := all_isDigit_decimal f.bits.toNat
  have hbytes : (decimal f.bits.toNat).all isNumberByte = true := by
    rw [List.all_eq_true] at hdigits ⊢
    intro b hb
    exact isNumberByte_of_isDigit (hdigits b hb)
  have hexponent : isNumber.exponent (101 :: decimal f.bits.toNat) = true := by
    unfold isNumber.exponent
    cases hd : decimal f.bits.toNat with
    | nil => exact absurd hd (decimal_ne_nil _)
    | cons sign digits =>
      rw [hd] at hdigits
      have hsign : isDigit sign = true := by
        simp only [List.all_cons, Bool.and_eq_true] at hdigits
        exact hdigits.1
      have hnot : (sign == 43 || sign == 45) = false := by
        rw [Bool.or_eq_false_iff, beq_eq_false_iff_ne, beq_eq_false_iff_ne]
        constructor
        . intro h
          rw [h] at hsign
          exact absurd hsign (by decide)
        . intro h
          rw [h] at hsign
          exact absurd hsign (by decide)
      simp [hnot, hdigits]
  have hnumber : isNumber (format f) = isNumber.exponent (101 :: decimal f.bits.toNat) := rfl
  unfold isFloatToken
  rw [hnumber, hexponent]
  unfold format
  simp only [List.all_cons, hbytes, List.any_cons]
  simp
  decide

end bitsCodec

def bitsCodec : FloatCodec where
  format := bitsCodec.format
  parse := bitsCodec.parse
  isFloatToken_format := bitsCodec.isFloatToken_format

def Externals.reference : Externals where
  float := bitsCodec
  sha256 := Sha256.digest

def sampleScope : TurnScope where
  sessionId := "session-1"
  profileId := "owner"
  taskId := "task-1"
  turnId := "turn-1"
  turnStreamId := "stream-1"

def sampleInput : EventInput where
  scope := sampleScope
  eventId := "event-1"
  kind := "job.started"
  payload := ⟨.object [("pid", .number (.posInt 42)), ("state", .string "running")], by decide⟩

def nested : Nat → Value
  | 0 => .object []
  | n + 1 => .object [("a", nested n)]

theorem canonical_nested (n : Nat) : (nested n).canonical = true := by
  induction n with
  | zero => rfl
  | succ n ih => simp [nested, Value.canonical, Value.sortedKeys, Value.canonicalFields, ih]

def nestedInput (n : Nat) : EventInput := { sampleInput with payload := ⟨nested n, canonical_nested n⟩ }

end EventStore
