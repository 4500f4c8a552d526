import Counsel.Decimal.Numeral
import Counsel.Decimal.Shortest

/-!
The numbers of JSON texts: integers, and binary64 numbers that are written with a point or an
exponent or lie beyond 64 bits.

A numeral that is not an integer is read the quick way: as many leading digits as fit 64 bits make
the significand, later digits before the point count into the exponent, later ones after it are
dropped, and the number is then one rounded product or quotient with a power of ten. So the last
place may differ from the nearest number, and the texts written from it show that.
-/

namespace Counsel.Json

open Counsel.Decimal

/-- A number: an integer, or a binary64 number. -/
inductive Number where
  | integer (value : Int)
  | binary (value : Binary64)
  deriving DecidableEq, Repr

/-- Without an exponent from `0.00001` up to below `10 ^ 16`. -/
def numberLayout : Layout := ⟨-5, 16⟩

/-- The text of a number. -/
def Number.text : Number → String
  | .integer n => toString n
  | .binary x => x.text numberLayout

/-- The binary64 number nearest to a number. -/
def Number.toBinary : Number → Binary64
  | .integer n => .ofInt n
  | .binary x => x

/-- The greatest significand: what fits 64 bits. -/
def greatestSignificand : Nat := Nat.pow 2 64 - 1

/-- The greatest exponent that is taken literally. -/
def greatestExponent : Nat := Nat.pow 2 31 - 1

/-- The parts of a numeral, with the digits as they stand in the text. -/
structure Numeral where
  negative : Bool
  whole : List Char
  fraction : Option (List Char)
  exponent : Option (Bool × List Char)
  deriving DecidableEq, Repr

/-- The significand made of the digits before the point, and how many digits did not fit. -/
def takeWhole (significand : Nat) : List Char → Nat × Nat
  | [] => (significand, 0)
  | c :: rest =>
      let next := 10 * significand + digitValue c
      if greatestSignificand < next then (significand, rest.length + 1) else takeWhole next rest

/-- The significand continued with digits after the point, and how many of them were taken. -/
def takeFraction (significand taken : Nat) : List Char → Nat × Nat
  | [] => (significand, taken)
  | c :: rest =>
      let next := 10 * significand + digitValue c
      if greatestSignificand < next then (significand, taken)
      else takeFraction next (taken + 1) rest

/-- Divides by `10 ^ 308` until the exponent left is a power of ten in range, or nothing is left of
the number. -/
def divideDown : Nat → Binary64 → Nat → Binary64
  | 0, x, _ => x
  | fuel + 1, x, exponent =>
      if exponent ≤ 308 then x.divPowTen exponent
      else if x.isZero then x
      else divideDown fuel (x.divPowTen 308) (exponent - 308)

/-- The number `± significand * 10 ^ exponent` by one product or by quotients; nothing where it
exceeds the range. -/
def scale (negative : Bool) (significand : Nat) (exponent : Int) : Option Binary64 :=
  let start := Binary64.ofRatio false significand 1
  let magnitude :=
    if exponent < 0 then some (divideDown 4 start exponent.natAbs)
    else if exponent ≤ 308 then
      let product := start.mulPowTen exponent.toNat
      if product.isFinite then some product else none
    else if start.isZero then some start else none
  magnitude.map fun x => if negative then x.neg else x

/-- An integer within 64 bits stays one; minus zero and integers beyond are binary64 numbers. -/
def integerValue (negative : Bool) (magnitude : Nat) : Number :=
  if negative then
    if 0 < magnitude ∧ magnitude ≤ Nat.pow 2 63 then .integer (-magnitude)
    else .binary (.ofRatio true magnitude 1)
  else .integer magnitude

/-- The number that a numeral denotes; nothing where it exceeds the range. -/
def Numeral.value (n : Numeral) : Option Number :=
  let (start, dropped) := takeWhole 0 n.whole
  match n.fraction, n.exponent with
  | none, none =>
      if dropped = 0 then some (integerValue n.negative start)
      else (scale n.negative start dropped).map .binary
  | fraction, exponent =>
      let (significand, taken) := match fraction with
        | some digits => takeFraction start 0 digits
        | none => (start, 0)
      let base : Int := (dropped : Int) - taken
      match exponent with
      | none => (scale n.negative significand base).map .binary
      | some (below, digits) =>
          let size := digitsValue 0 digits
          if greatestExponent < size then
            if significand ≠ 0 ∧ !below then none else some (.binary (.zero n.negative))
          else
            let total : Int := if below then base - size else base + size
            (scale n.negative significand total).map .binary

end Counsel.Json
