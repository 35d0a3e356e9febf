import Mathlib

namespace Sha256

abbrev Bytes := List UInt8

def roundConstants : List Nat :=
  [0x428a2f98, 0x71374491, 0xb5c0fbcf, 0xe9b5dba5, 0x3956c25b, 0x59f111f1, 0x923f82a4, 0xab1c5ed5,
   0xd807aa98, 0x12835b01, 0x243185be, 0x550c7dc3, 0x72be5d74, 0x80deb1fe, 0x9bdc06a7, 0xc19bf174,
   0xe49b69c1, 0xefbe4786, 0x0fc19dc6, 0x240ca1cc, 0x2de92c6f, 0x4a7484aa, 0x5cb0a9dc, 0x76f988da,
   0x983e5152, 0xa831c66d, 0xb00327c8, 0xbf597fc7, 0xc6e00bf3, 0xd5a79147, 0x06ca6351, 0x14292967,
   0x27b70a85, 0x2e1b2138, 0x4d2c6dfc, 0x53380d13, 0x650a7354, 0x766a0abb, 0x81c2c92e, 0x92722c85,
   0xa2bfe8a1, 0xa81a664b, 0xc24b8b70, 0xc76c51a3, 0xd192e819, 0xd6990624, 0xf40e3585, 0x106aa070,
   0x19a4c116, 0x1e376c08, 0x2748774c, 0x34b0bcb5, 0x391c0cb3, 0x4ed8aa4a, 0x5b9cca4f, 0x682e6ff3,
   0x748f82ee, 0x78a5636f, 0x84c87814, 0x8cc70208, 0x90befffa, 0xa4506ceb, 0xbef9a3f7, 0xc67178f2]

structure Hash where
  a : Nat
  b : Nat
  c : Nat
  d : Nat
  e : Nat
  f : Nat
  g : Nat
  h : Nat

def initial : Hash where
  a := 0x6a09e667
  b := 0xbb67ae85
  c := 0x3c6ef372
  d := 0xa54ff53a
  e := 0x510e527f
  f := 0x9b05688c
  g := 0x1f83d9ab
  h := 0x5be0cd19

def rotr (x n : Nat) : Nat := (x >>> n) ||| ((x <<< (32 - n)) % 2 ^ 32)

def round (state : Hash × List Nat) (k : Nat) : Hash × List Nat :=
  let (s, window) := state
  let w := window.getD 0 0
  let t1 := s.h + (rotr s.e 6 ^^^ rotr s.e 11 ^^^ rotr s.e 25)
    + ((s.e &&& s.f) ^^^ ((2 ^ 32 - 1 - s.e) &&& s.g)) + k + w
  let t2 := (rotr s.a 2 ^^^ rotr s.a 13 ^^^ rotr s.a 22)
    + ((s.a &&& s.b) ^^^ (s.a &&& s.c) ^^^ (s.b &&& s.c))
  let x := window.getD 1 0
  let y := window.getD 14 0
  let next := (w + (rotr x 7 ^^^ rotr x 18 ^^^ (x >>> 3)) + window.getD 9 0
    + (rotr y 17 ^^^ rotr y 19 ^^^ (y >>> 10))) % 2 ^ 32
  ({ a := (t1 + t2) % 2 ^ 32, b := s.a, c := s.b, d := s.c, e := (s.d + t1) % 2 ^ 32, f := s.e,
     g := s.f, h := s.g },
    window.tail ++ [next])

def words : Bytes → List Nat
  | a :: b :: c :: d :: rest =>
    (((a.toNat * 256 + b.toNat) * 256 + c.toNat) * 256 + d.toNat) :: words rest
  | _ => []

def compress (s : Hash) (block : Bytes) : Hash :=
  let t := (roundConstants.foldl round (s, words block)).1
  { a := (s.a + t.a) % 2 ^ 32, b := (s.b + t.b) % 2 ^ 32, c := (s.c + t.c) % 2 ^ 32,
    d := (s.d + t.d) % 2 ^ 32, e := (s.e + t.e) % 2 ^ 32, f := (s.f + t.f) % 2 ^ 32,
    g := (s.g + t.g) % 2 ^ 32, h := (s.h + t.h) % 2 ^ 32 }

def pad (message : Bytes) : Bytes :=
  let zeros : Bytes := List.replicate ((119 - message.length % 64) % 64) 0
  let length : Bytes :=
    [56, 48, 40, 32, 24, 16, 8, 0].map (fun shift => ((8 * message.length) >>> shift).toUInt8)
  message ++ 0x80 :: zeros ++ length

def compressAll : Nat → Hash → Bytes → Hash
  | 0, s, _ => s
  | blocks + 1, s, message => compressAll blocks (compress s (message.take 64)) (message.drop 64)

def digest (message : Bytes) : Vector UInt8 32 :=
  let padded := pad message
  let s := compressAll (padded.length / 64) initial padded
  let words := [s.a, s.b, s.c, s.d, s.e, s.f, s.g, s.h]
  Vector.ofFn (fun i => (words.getD (i.val / 4) 0 >>> (24 - 8 * (i.val % 4))).toUInt8)

example : (digest [97, 98, 99]).toList =
    [0xba, 0x78, 0x16, 0xbf, 0x8f, 0x01, 0xcf, 0xea, 0x41, 0x41, 0x40, 0xde, 0x5d, 0xae, 0x22, 0x23,
     0xb0, 0x03, 0x61, 0xa3, 0x96, 0x17, 0x7a, 0x9c, 0xb4, 0x10, 0xff, 0x61, 0xf2, 0x00, 0x15, 0xad] := by
  decide +kernel

def hexDigit (n : Nat) : Char := Char.ofNat (if n < 10 then 48 + n else 87 + n)

def hex (message : Bytes) : String :=
  String.ofList ((digest message).toList.flatMap
    fun b => [hexDigit (b.toNat / 16), hexDigit (b.toNat % 16)])

end Sha256
