import Trillionnium.Json.Basic

namespace Text

open Json

def isSha256Byte (b : UInt8) : Bool := (48 ≤ b && b ≤ 57) || (97 ≤ b && b ≤ 102)

def isIdByte (b : UInt8) : Bool :=
  (48 ≤ b && b ≤ 57) || (65 ≤ b && b ≤ 90) || (97 ≤ b && b ≤ 122)
    || b == 45 || b == 95 || b == 46 || b == 58

def isControl (c : Char) : Bool := c.toNat < 32 || (127 ≤ c.toNat && c.toNat < 160)

def isId (value : String) (maximum : Nat) : Bool :=
  !(utf8 value).isEmpty && (utf8 value).length ≤ maximum && (utf8 value).all isIdByte

def isSha256 (value : String) : Bool :=
  (utf8 value).length == 64 && (utf8 value).all isSha256Byte

def isText (value : String) (maximum : Nat) (allowEmpty : Bool) : Bool :=
  (allowEmpty || !(utf8 value).isEmpty) && (utf8 value).length ≤ maximum
    && !(utf8 value).contains 0 && !value.toList.any isControl

def isWhitespace (c : Char) : Bool :=
  let n := c.toNat
  (9 ≤ n && n ≤ 13) || n == 0x20 || n == 0x85 || n == 0xa0 || n == 0x1680
    || (0x2000 ≤ n && n ≤ 0x200a) || n == 0x2028 || n == 0x2029 || n == 0x202f || n == 0x205f
    || n == 0x3000

def isBlank (value : String) : Bool := value.toList.all isWhitespace

def isHexByte (b : UInt8) : Bool :=
  (48 ≤ b && b ≤ 57) || (97 ≤ b && b ≤ 102) || (65 ≤ b && b ≤ 70)

def isDigest (value : String) : Bool :=
  (utf8 value).length == 64 && (utf8 value).all isHexByte

end Text
