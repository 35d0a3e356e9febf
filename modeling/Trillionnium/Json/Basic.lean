import Mathlib

/-!
JSON documents as a value tree, together with the measures on them that the text codec depends on.

Objects are key ordered maps: a value that a program holds is `Canonical`, that is, the members of
each of its objects are strictly increasing in their keys and each of its integers fits 64 bits.
-/

namespace Json

abbrev Bytes := List UInt8

def utf8 (s : String) : Bytes := s.toByteArray.data.toList

def ofUtf8? (bytes : Bytes) : Option String := String.fromUTF8? ⟨bytes.toArray⟩

structure F64 where
  bits : BitVec 64
  finite : (bits >>> 52) &&& 0x7ff ≠ 0x7ff
  deriving DecidableEq

namespace F64

def isZero (f : F64) : Bool := f.bits <<< 1 == 0

def beq (f g : F64) : Bool := f.bits == g.bits || (f.isZero && g.isZero)

end F64

inductive Number where
  | posInt (n : Nat)
  | negInt (m : Nat)
  | float (f : F64)
  deriving DecidableEq

namespace Number

def beq : Number → Number → Bool
  | .posInt n, .posInt m => n == m
  | .negInt n, .negInt m => n == m
  | .float f, .float g => f.beq g
  | _, _ => false

def canonical : Number → Bool
  | .posInt n => n < 2 ^ 64
  | .negInt m => 0 < m && m ≤ 2 ^ 63
  | .float _ => true

end Number

inductive Value where
  | null
  | bool (b : Bool)
  | number (n : Number)
  | string (s : String)
  | array (xs : List Value)
  | object (fields : List (String × Value))

namespace Value

mutual

def depth : Value → Nat
  | .array xs => depthList xs + 1
  | .object fields => depthFields fields + 1
  | _ => 0

def depthList : List Value → Nat
  | [] => 0
  | x :: xs => max x.depth (depthList xs)

def depthFields : List (String × Value) → Nat
  | [] => 0
  | (_, x) :: fields => max x.depth (depthFields fields)

end

mutual

def beq : Value → Value → Bool
  | .null, .null => true
  | .bool a, .bool b => a == b
  | .number a, .number b => a.beq b
  | .string a, .string b => a == b
  | .array a, .array b => beqList a b
  | .object a, .object b => beqFields a b
  | _, _ => false

def beqList : List Value → List Value → Bool
  | [], [] => true
  | a :: as, b :: bs => a.beq b && beqList as bs
  | _, _ => false

def beqFields : List (String × Value) → List (String × Value) → Bool
  | [], [] => true
  | (k, a) :: as, (l, b) :: bs => k == l && a.beq b && beqFields as bs
  | _, _ => false

end

instance : BEq Value := ⟨beq⟩

def sortedKeys : List (String × Value) → Bool
  | [] => true
  | [_] => true
  | (k, _) :: (l, y) :: fields => k < l && sortedKeys ((l, y) :: fields)

mutual

def canonical : Value → Bool
  | .number n => n.canonical
  | .array xs => canonicalList xs
  | .object fields => sortedKeys fields && canonicalFields fields
  | _ => true

def canonicalList : List Value → Bool
  | [] => true
  | x :: xs => x.canonical && canonicalList xs

def canonicalFields : List (String × Value) → Bool
  | [] => true
  | (_, x) :: fields => x.canonical && canonicalFields fields

end

def isObject : Value → Bool
  | .object _ => true
  | _ => false

def get? (v : Value) (key : String) : Option Value :=
  match v with
  | .object fields => (fields.find? (·.1 == key)).map (·.2)
  | _ => none

end Value

def insertField (key : String) (v : Value) : List (String × Value) → List (String × Value)
  | [] => [(key, v)]
  | (k, x) :: fields =>
    if key < k then
      (key, v) :: (k, x) :: fields
    else if key = k then
      (key, v) :: fields
    else
      (k, x) :: insertField key v fields

end Json
