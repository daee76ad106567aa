import TreeQuery.Text.Basic

/-!
# Numerals

Decimal numerals of natural numbers and integers, the values of digits, and the reading of a
32-bit integer.
-/

namespace TreeQuery
namespace Text

/-! # Digits -/

def digitValue (c : Char) : Nat :=
  c.toNat - '0'.toNat

def hexDigit? (c : Char) : Option Nat :=
  if '0' <= c && c <= '9' then some (digitValue c)
  else if 'a' <= c && c <= 'f' then some (c.toNat - 'a'.toNat + 10)
  else if 'A' <= c && c <= 'F' then some (c.toNat - 'A'.toNat + 10)
  else none

/-! # Writing -/

def ofNat (n : Nat) : Text :=
  Nat.toDigits 10 n

def ofInt : Int -> Text
  | .ofNat n => ofNat n
  | .negSucc n => '-' :: ofNat (n + 1)

/-! # Reading -/

def readNat? (text : Text) : Option Nat :=
  if text.isEmpty || !text.all Char.isDigit then none
  else some (text.foldl (fun value c => 10 * value + digitValue c) 0)

def fitsInt32 (n : Int) : Bool :=
  -2147483648 <= n && n <= 2147483647

/-- The value of decimal digits with at most one sign in front, if it fits 32 bits. -/
def readInt32? (text : Text) : Option Int :=
  let value : Option Int :=
    match text with
    | '+' :: digits => (readNat? digits).map Int.ofNat
    | '-' :: digits => (readNat? digits).map (fun n => -Int.ofNat n)
    | digits => (readNat? digits).map Int.ofNat
  value.filter fitsInt32

end Text
end TreeQuery
