import Counsel.Decimal.Binary64

/-!
Decimal numerals as people write them: an optional sign, digits with an optional point among or
beside them, and an optional exponent; also `inf`, `infinity` and `nan` in any case. A numeral
denotes the binary64 number nearest to its exact value.
-/

namespace Counsel.Decimal

/-- The value of an ASCII digit. -/
def digitValue (c : Char) : Nat := c.toNat - '0'.toNat

/-- The natural that a run of digits denotes, continuing `value`. -/
def digitsValue (value : Nat) (digits : List Char) : Nat :=
  digits.foldl (fun n c => 10 * n + digitValue c) value

/-- The number `± significand * 10 ^ exponent`, for any exponent: far out it is infinite or zero
without the power being computed. -/
def ofScientific (negative : Bool) (significand : Nat) (exponent : Int) : Binary64 :=
  let magnitude : Int := exponent + (Nat.toDigits 10 significand).length
  if significand = 0 then .zero negative
  else if 400 < magnitude then .infinite negative
  else if magnitude < -400 then .zero negative
  else .ofDecimal negative significand exponent

/-- The sign in front of a numeral, and what follows it. -/
def splitSign : List Char → Bool × List Char
  | '-' :: rest => (true, rest)
  | '+' :: rest => (false, rest)
  | rest => (false, rest)

/-- The exponent that ends a numeral: nothing, or `e` with an optional sign and digits. -/
def readExponent : List Char → Option Int
  | [] => some 0
  | c :: rest =>
      if c = 'e' ∨ c = 'E' then
        let (negative, digits) := splitSign rest
        if digits ≠ [] ∧ digits.all Char.isDigit then
          let value : Int := digitsValue 0 digits
          some (if negative then -value else value)
        else none
      else none

/-- The number that a numeral denotes; nothing where the text is no numeral. -/
def readNumeral (text : List Char) : Option Binary64 :=
  let (negative, body) := splitSign text
  let word := body.map Char.toLower
  if word = "inf".toList ∨ word = "infinity".toList then some (.infinite negative)
  else if word = "nan".toList then some .nan
  else
    let whole := body.takeWhile Char.isDigit
    let afterWhole := body.dropWhile Char.isDigit
    let (fraction, tail) := match afterWhole with
      | '.' :: rest => (rest.takeWhile Char.isDigit, rest.dropWhile Char.isDigit)
      | rest => ([], rest)
    if whole = [] ∧ fraction = [] then none
    else (readExponent tail).map fun exponent =>
      ofScientific negative (digitsValue 0 (whole ++ fraction)) (exponent - fraction.length)

end Counsel.Decimal
