import Trillionnium.Json.Impl.Write

/-!
The reader of the text form. It counts how many containers are open and refuses a text that opens
more than `recursionLimit - 1` of them, and it refuses objects that repeat a key.
-/

namespace Json

inductive Error where
  | eofWhileParsingList
  | eofWhileParsingObject
  | eofWhileParsingString
  | eofWhileParsingValue
  | expectedColon
  | expectedListCommaOrEnd
  | expectedObjectCommaOrEnd
  | expectedSomeIdent
  | expectedSomeValue
  | invalidEscape
  | invalidNumber
  | invalidUnicodeCodePoint
  | controlCharacterWhileParsingString
  | keyMustBeAString
  | loneLeadingSurrogateInHexEscape
  | trailingCharacters
  | recursionLimitExceeded
  | duplicateKey (key : String)
  | unknownField (name : String)
  | missingField (name : String)
  | invalidType (expected : String)
  deriving DecidableEq, Repr

namespace Error

def toString : Error → String
  | .eofWhileParsingList => "EOF while parsing a list"
  | .eofWhileParsingObject => "EOF while parsing an object"
  | .eofWhileParsingString => "EOF while parsing a string"
  | .eofWhileParsingValue => "EOF while parsing a value"
  | .expectedColon => "expected `:`"
  | .expectedListCommaOrEnd => "expected `,` or `]`"
  | .expectedObjectCommaOrEnd => "expected `,` or `\x7d`"
  | .expectedSomeIdent => "expected ident"
  | .expectedSomeValue => "expected value"
  | .invalidEscape => "invalid escape"
  | .invalidNumber => "invalid number"
  | .invalidUnicodeCodePoint => "invalid unicode code point"
  | .controlCharacterWhileParsingString =>
    "control character (\\u0000-\\u001F) found while parsing a string"
  | .keyMustBeAString => "key must be a string"
  | .loneLeadingSurrogateInHexEscape => "lone leading surrogate in hex escape"
  | .trailingCharacters => "trailing characters"
  | .recursionLimitExceeded => "recursion limit exceeded"
  | .duplicateKey key => "duplicate key " ++ key
  | .unknownField name => "unknown field `" ++ name ++ "`"
  | .missingField name => "missing field `" ++ name ++ "`"
  | .invalidType expected => "invalid type, expected " ++ expected

end Error

def recursionLimit : Nat := 128

def isSpace (b : UInt8) : Bool := b == 32 || b == 10 || b == 9 || b == 13

def skipSpace (input : Bytes) : Bytes := input.dropWhile isSpace

def hexValue (b : UInt8) : Option Nat :=
  if 48 ≤ b && b ≤ 57 then some (b.toNat - 48)
  else if 97 ≤ b && b ≤ 102 then some (b.toNat - 87)
  else if 65 ≤ b && b ≤ 70 then some (b.toNat - 55)
  else none

def hexValue4 (a b c d : UInt8) : Option Nat := do
  let a ← hexValue a
  let b ← hexValue b
  let c ← hexValue c
  let d ← hexValue d
  return ((a * 16 + b) * 16 + c) * 16 + d

def simpleEscape (b : UInt8) : Option UInt8 :=
  if b = 34 then some 34
  else if b = 92 then some 92
  else if b = 47 then some 47
  else if b = 98 then some 8
  else if b = 102 then some 12
  else if b = 110 then some 10
  else if b = 114 then some 13
  else if b = 116 then some 9
  else none

def readEscape (input : Bytes) : Except Error (Bytes × Nat) :=
  match input with
  | [] => .error .eofWhileParsingString
  | e :: rest =>
    if e = 117 then
      match rest with
      | h1 :: h2 :: h3 :: h4 :: rest =>
        match hexValue4 h1 h2 h3 h4 with
        | none => .error .invalidEscape
        | some n =>
          if 0xdc00 ≤ n ∧ n ≤ 0xdfff then
            .error .loneLeadingSurrogateInHexEscape
          else if 0xd800 ≤ n ∧ n ≤ 0xdbff then
            -- A leading surrogate has to be followed by the escape of a trailing one.
            match rest with
            | 92 :: 117 :: l1 :: l2 :: l3 :: l4 :: _ =>
              match hexValue4 l1 l2 l3 l4 with
              | none => .error .invalidEscape
              | some m =>
                if 0xdc00 ≤ m ∧ m ≤ 0xdfff then
                  let c := Char.ofNat ((n - 0xd800) * 0x400 + (m - 0xdc00) + 0x10000)
                  .ok (String.utf8EncodeChar c, 11)
                else
                  .error .loneLeadingSurrogateInHexEscape
            | _ => .error .loneLeadingSurrogateInHexEscape
          else
            .ok (String.utf8EncodeChar (Char.ofNat n), 5)
      | _ => .error .eofWhileParsingString
    else
      match simpleEscape e with
      | none => .error .invalidEscape
      | some c => .ok ([c], 1)

def readString : Nat → Bytes → Except Error (Bytes × Bytes)
  | _, [] => .error .eofWhileParsingString
  | skip + 1, _ :: rest => readString skip rest
  | 0, b :: rest =>
    if b = 34 then
      .ok ([], rest)
    else if b = 92 then do
      let (c, skip) ← readEscape rest
      let (s, rest) ← readString skip rest
      return (c ++ s, rest)
    else if b < 32 then
      .error .controlCharacterWhileParsingString
    else do
      let (s, rest) ← readString 0 rest
      return (b :: s, rest)

def readText (input : Bytes) : Except Error (String × Bytes) := do
  let (bytes, rest) ← readString 0 input
  match ofUtf8? bytes with
  | none => .error .invalidUnicodeCodePoint
  | some s => .ok (s, rest)

def isInteger : Bytes → Bool
  | [] => false
  | [d] => isDigit d
  | d :: ds => isDigit d && d != 48 && ds.all isDigit

def decimalValue (digits : Bytes) : Nat :=
  Nat.ofDigitChars 10 (digits.map (fun b => Char.ofNat b.toNat)) 0

variable (codec : FloatCodec)

def readFloat (token : Bytes) : Except Error Number :=
  if isNumber token then
    match codec.parse token with
    | some f => .ok (.float f)
    | none => .error .invalidNumber
  else
    .error .invalidNumber

def readNumber (token : Bytes) : Except Error Number :=
  match token with
  | 45 :: digits =>
    if isInteger digits && 0 < decimalValue digits && decimalValue digits ≤ 2 ^ 63 then
      .ok (.negInt (decimalValue digits))
    else
      readFloat codec token
  | digits =>
    if isInteger digits && decimalValue digits < 2 ^ 64 then
      .ok (.posInt (decimalValue digits))
    else
      readFloat codec token

def readElements (read : Bytes → Except Error (Value × Bytes)) :
    Nat → Bytes → Except Error (List Value × Bytes)
  | 0, _ => .error .eofWhileParsingList
  | fuel + 1, input => do
    let (x, rest) ← read input
    match skipSpace rest with
    | [] => .error .eofWhileParsingList
    | b :: rest =>
      if b = 44 then do
        let (xs, rest) ← readElements read fuel rest
        return (x :: xs, rest)
      else if b = 93 then
        return ([x], rest)
      else
        .error .expectedListCommaOrEnd

def readMembers (read : Bytes → Except Error (Value × Bytes)) :
    Nat → List (String × Value) → Bytes → Except Error (List (String × Value) × Bytes)
  | 0, _, _ => .error .eofWhileParsingObject
  | fuel + 1, acc, input =>
    match skipSpace input with
    | [] => .error .eofWhileParsingObject
    | q :: rest =>
      if q = 34 then do
        let (key, rest) ← readText rest
        if acc.any (·.1 == key) then
          .error (.duplicateKey key)
        else
          match skipSpace rest with
          | [] => .error .eofWhileParsingObject
          | c :: rest =>
            if c = 58 then do
              let (x, rest) ← read rest
              match skipSpace rest with
              | [] => .error .eofWhileParsingObject
              | b :: rest =>
                if b = 44 then
                  readMembers read fuel (insertField key x acc) rest
                else if b = 125 then
                  return (insertField key x acc, rest)
                else
                  .error .expectedObjectCommaOrEnd
            else
              .error .expectedColon
      else
        .error .keyMustBeAString

def readScalar (b : UInt8) (rest : Bytes) : Except Error (Value × Bytes) :=
  if b = 110 then
    match rest with
    | 117 :: 108 :: 108 :: rest => .ok (.null, rest)
    | _ => .error .expectedSomeIdent
  else if b = 116 then
    match rest with
    | 114 :: 117 :: 101 :: rest => .ok (.bool true, rest)
    | _ => .error .expectedSomeIdent
  else if b = 102 then
    match rest with
    | 97 :: 108 :: 115 :: 101 :: rest => .ok (.bool false, rest)
    | _ => .error .expectedSomeIdent
  else if b = 34 then do
    let (s, rest) ← readText rest
    return (.string s, rest)
  else if b = 45 || isDigit b then do
    let n ← readNumber codec ((b :: rest).takeWhile isNumberByte)
    return (.number n, (b :: rest).dropWhile isNumberByte)
  else
    .error .expectedSomeValue

def readWith (nested : Except Error (Bytes → Except Error (Value × Bytes))) (input : Bytes) :
    Except Error (Value × Bytes) :=
  match skipSpace input with
  | [] => .error .eofWhileParsingValue
  | b :: rest =>
    if b = 91 then do
      let read ← nested
      match skipSpace rest with
      | 93 :: rest => return (.array [], rest)
      | rest =>
        let (xs, rest) ← readElements read (rest.length + 1) rest
        return (.array xs, rest)
    else if b = 123 then do
      let read ← nested
      match skipSpace rest with
      | 125 :: rest => return (.object [], rest)
      | rest =>
        let (fields, rest) ← readMembers read (rest.length + 1) [] rest
        return (.object fields, rest)
    else
      readScalar codec b rest

def readValue : Nat → Bytes → Except Error (Value × Bytes)
  | 0 => readWith codec (.error .recursionLimitExceeded)
  | depth + 1 => readWith codec (.ok (readValue depth))

def read (input : Bytes) : Except Error Value := do
  let (x, rest) ← readValue codec (recursionLimit - 1) input
  match skipSpace rest with
  | [] => return x
  | _ => .error .trailingCharacters

end Json
