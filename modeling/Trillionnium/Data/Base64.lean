import Mathlib

namespace Base64

def digit (n : Nat) : Char :=
  if n < 26 then Char.ofNat (65 + n)
  else if n < 52 then Char.ofNat (71 + n)
  else if n < 62 then Char.ofNat (n - 4)
  else if n = 62 then '+'
  else '/'

def encodeChars : List UInt8 → List Char
  | a :: b :: c :: rest =>
    let n := (a.toNat * 256 + b.toNat) * 256 + c.toNat
    digit (n / 2 ^ 18) :: digit (n / 2 ^ 12 % 64) :: digit (n / 2 ^ 6 % 64) :: digit (n % 64)
      :: encodeChars rest
  | [a, b] =>
    let n := (a.toNat * 256 + b.toNat) * 4
    [digit (n / 2 ^ 12), digit (n / 2 ^ 6 % 64), digit (n % 64), '=']
  | [a] =>
    let n := a.toNat * 16
    [digit (n / 2 ^ 6), digit (n % 64), '=', '=']
  | [] => []

def encode (bytes : List UInt8) : String := String.ofList (encodeChars bytes)

example : encode [77, 97, 110, 77, 97, 77] = "TWFuTWFN" := by decide

example : encode [77] = "TQ==" := by decide

end Base64
