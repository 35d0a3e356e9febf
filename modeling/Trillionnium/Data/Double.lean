import Trillionnium.Json.Basic

/-!
IEEE 754 doubles with their order. A number that is not a NaN stands for a rational or an infinity,
and comparisons compare what the operands stand for.
-/

structure Double where
  bits : BitVec 64
  deriving DecidableEq, Repr

namespace Double

def negative (d : Double) : Bool := d.bits.msb

def exponent (d : Double) : Nat := ((d.bits >>> 52) &&& 0x7ff).toNat

def mantissa (d : Double) : Nat := (d.bits &&& 0xfffffffffffff).toNat

def isFinite (d : Double) : Bool := decide ((d.bits >>> 52) &&& 0x7ff ≠ 0x7ff)

def magnitude (d : Double) : Nat :=
  if d.exponent = 0 then d.mantissa else (2 ^ 52 + d.mantissa) * 2 ^ (d.exponent - 1)

def toRat (d : Double) : ℚ :=
  (if d.negative then -(d.magnitude : ℤ) else d.magnitude : ℤ) / (2 ^ 1074 : ℤ)

def value? (d : Double) : Option (WithBot (WithTop ℚ)) :=
  if d.isFinite then
    some ((d.toRat : WithTop ℚ) : WithBot (WithTop ℚ))
  else if d.mantissa ≠ 0 then
    none
  else if d.negative then
    some ⊥
  else
    some ((⊤ : WithTop ℚ) : WithBot (WithTop ℚ))

def compareWith (p : WithBot (WithTop ℚ) → WithBot (WithTop ℚ) → Bool) (a b : Double) : Bool :=
  match a.value?, b.value? with
  | some x, some y => p x y
  | _, _ => false

def lt (a b : Double) : Bool := compareWith (fun x y => decide (x < y)) a b

def le (a b : Double) : Bool := compareWith (fun x y => decide (x ≤ y)) a b

def eq (a b : Double) : Bool := compareWith (fun x y => decide (x = y)) a b

def zero : Double := ⟨0⟩

def half : Double := ⟨0x3fe0000000000000⟩

def one : Double := ⟨0x3ff0000000000000⟩

example : half.toRat = 1 / 2 ∧ one.toRat = 1 ∧ zero.toRat = 0 := by decide +kernel

def toValue (d : Double) : Json.Value :=
  if h : (d.bits >>> 52) &&& 0x7ff ≠ 0x7ff then .number (.float ⟨d.bits, h⟩) else .null

end Double
