import Trillionnium.Data.Checked

namespace Text

def rsplitOnce (separator : List Char) : List Char → Option (List Char × List Char)
  | [] => if separator = [] then some ([], []) else none
  | c :: cs =>
    match rsplitOnce separator cs with
    | some (before, after) => some (c :: before, after)
    | none =>
      if separator.isPrefixOf (c :: cs) then
        some ([], (c :: cs).drop separator.length)
      else
        none

def decimalValue (digits : List Char) : Nat :=
  digits.foldl (fun n digit => 10 * n + (digit.toNat - '0'.toNat)) 0

def parseU64 (text : List Char) : Option Nat :=
  let digits :=
    match text with
    | '+' :: digits => digits
    | digits => digits
  if digits ≠ [] ∧ digits.all Char.isDigit ∧ decimalValue digits ≤ Checked.u64Max then
    some (decimalValue digits)
  else
    none

end Text
