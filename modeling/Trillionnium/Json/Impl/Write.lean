import Trillionnium.Json.Basic

/-!
The compact text form of a value: no white space, object members in the order in which the value
lists them and control characters in strings escaped.
-/

namespace Json

def isNumberByte (b : UInt8) : Bool :=
  (48 ≤ b && b ≤ 57) || b == 45 || b == 43 || b == 46 || b == 101 || b == 69

def isDigit (b : UInt8) : Bool := 48 ≤ b && b ≤ 57

namespace isNumber

def exponent : Bytes → Bool
  | [] => true
  | e :: rest =>
    (e == 101 || e == 69) &&
      match rest with
      | [] => false
      | sign :: digits =>
        if sign == 43 || sign == 45 then
          !digits.isEmpty && digits.all isDigit
        else
          (sign :: digits).all isDigit

def fraction : Bytes → Bool
  | 46 :: d :: rest => isDigit d && exponent (rest.dropWhile isDigit)
  | rest => exponent rest

def unsigned : Bytes → Bool
  | 48 :: rest => fraction rest
  | d :: rest => isDigit d && fraction (rest.dropWhile isDigit)
  | [] => false

end isNumber

def isNumber : Bytes → Bool
  | 45 :: rest => isNumber.unsigned rest
  | rest => isNumber.unsigned rest

def isFloatToken (token : Bytes) : Bool :=
  token.all isNumberByte && isNumber token && token.any (fun b => b == 46 || b == 101 || b == 69)

/--
The conversion between doubles and their decimal text. Nothing is assumed on how the two functions
compose, only that the text of a double is never mistaken for an integer.
-/
structure FloatCodec where
  format : F64 → Bytes
  parse : Bytes → Option F64
  isFloatToken_format : ∀ f, isFloatToken (format f) = true

def decimal (n : Nat) : Bytes := (Nat.toDigits 10 n).map (fun c => c.toNat.toUInt8)

def hexDigit (n : Nat) : UInt8 :=
  if n < 10 then (48 + n).toUInt8 else (87 + n).toUInt8

def escapeByte (b : UInt8) : Bytes :=
  if b = 34 then [92, 34]
  else if b = 92 then [92, 92]
  else if b = 8 then [92, 98]
  else if b = 9 then [92, 116]
  else if b = 10 then [92, 110]
  else if b = 12 then [92, 102]
  else if b = 13 then [92, 114]
  else if b < 32 then [92, 117, 48, 48, hexDigit (b.toNat / 16), hexDigit (b.toNat % 16)]
  else [b]

def escape (bytes : Bytes) : Bytes := bytes.flatMap escapeByte

def writeString (s : String) : Bytes := 34 :: (escape (utf8 s) ++ [34])

variable (codec : FloatCodec)

def writeNumber : Number → Bytes
  | .posInt n => decimal n
  | .negInt m => 45 :: decimal m
  | .float f => codec.format f

mutual

def write : Value → Bytes
  | .null => [110, 117, 108, 108]
  | .bool true => [116, 114, 117, 101]
  | .bool false => [102, 97, 108, 115, 101]
  | .number n => writeNumber codec n
  | .string s => writeString s
  | .array [] => [91, 93]
  | .array (x :: xs) => 91 :: (write x ++ (writeElements xs ++ [93]))
  | .object [] => [123, 125]
  | .object ((k, x) :: fields) =>
    123 :: (writeString k ++ (58 :: (write x ++ (writeMembers fields ++ [125]))))

def writeElements : List Value → Bytes
  | [] => []
  | x :: xs => 44 :: (write x ++ writeElements xs)

def writeMembers : List (String × Value) → Bytes
  | [] => []
  | (k, x) :: fields => 44 :: (writeString k ++ (58 :: (write x ++ writeMembers fields)))

end

end Json
