import TreeQuery.Text.Numeral

/-!
# JSON numbers

A number is accepted if it is well formed and its value fits a double.  The value is taken from
as many leading digits as fit 64 bits, times a power of ten.
-/

namespace TreeQuery
namespace Json

/-- The leading digits of a number, as far as they fit 64 bits, and the power of ten to multiply
them with. -/
structure Magnitude where
  digits : Nat
  exponent : Int
deriving Repr, DecidableEq

namespace Magnitude

def limit : Nat := Nat.pow 2 64 - 1

/-- Add the digits before the decimal point.  From the first one that does not fit, each digit
only raises the exponent. -/
def addInteger : Magnitude -> Text -> Magnitude
  | magnitude, [] => magnitude
  | magnitude, c :: rest =>
      let digits := 10 * magnitude.digits + Text.digitValue c
      if digits <= limit then addInteger ⟨digits, magnitude.exponent⟩ rest
      else ⟨magnitude.digits, magnitude.exponent + (c :: rest).length⟩

/-- Add the digits after the decimal point.  From the first one that does not fit, all are
ignored. -/
def addFraction : Magnitude -> Text -> Magnitude
  | magnitude, [] => magnitude
  | magnitude, c :: rest =>
      let digits := 10 * magnitude.digits + Text.digitValue c
      if digits <= limit then addFraction ⟨digits, magnitude.exponent - 1⟩ rest
      else magnitude

/-- The nearest number with 53 significant binary digits; of two the even one. -/
def nearest (n : Nat) : Nat :=
  if n < Nat.pow 2 53 then n
  else
    let unit := Nat.pow 2 (n.log2 - 52)
    let quotient := n / unit
    let remainder := n % unit
    let isUp := unit < 2 * remainder || (2 * remainder == unit && quotient % 2 == 1)
    (if isUp then quotient + 1 else quotient) * unit

def isFinite (magnitude : Magnitude) : Bool :=
  if magnitude.digits = 0 || magnitude.exponent < 0 then true
  else if 308 < magnitude.exponent then false
  else
    nearest magnitude.digits * nearest (Nat.pow 10 magnitude.exponent.toNat) <
      Nat.pow 2 1024 - Nat.pow 2 970

end Magnitude

def readExponent (magnitude : Magnitude) (rest : Text) : Option (Magnitude × Text) :=
  let (isNegative, rest) :=
    match rest with
    | '+' :: rest => (false, rest)
    | '-' :: rest => (true, rest)
    | rest => (false, rest)
  let digits := rest.takeWhile Char.isDigit
  if digits.isEmpty then none
  else
    let value : Int := digits.foldl (fun value c => 10 * value + Text.digitValue c) 0
    let exponent := magnitude.exponent + (if isNegative then -value else value)
    some (⟨magnitude.digits, exponent⟩, rest.dropWhile Char.isDigit)

def readFraction (magnitude : Magnitude) (rest : Text) : Option (Magnitude × Text) :=
  match rest with
  | '.' :: rest =>
      let digits := rest.takeWhile Char.isDigit
      if digits.isEmpty then none
      else some (magnitude.addFraction digits, rest.dropWhile Char.isDigit)
  | rest => some (magnitude, rest)

def readUnsigned (rest : Text) : Option Text :=
  let digits := rest.takeWhile Char.isDigit
  let isLeading := digits.head? == some '0' && digits.length != 1
  if digits.isEmpty || isLeading then none
  else
    match readFraction (Magnitude.addInteger ⟨0, 0⟩ digits) (rest.dropWhile Char.isDigit) with
    | none => none
    | some (magnitude, rest) =>
        let exponent? :=
          match rest with
          | 'e' :: rest => readExponent magnitude rest
          | 'E' :: rest => readExponent magnitude rest
          | rest => some (magnitude, rest)
        match exponent? with
        | none => none
        | some (magnitude, rest) => if magnitude.isFinite then some rest else none

def readNumber (rest : Text) : Option Text :=
  match rest with
  | '-' :: rest => readUnsigned rest
  | rest => readUnsigned rest

end Json
end TreeQuery
