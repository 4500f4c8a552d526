import Counsel.Decimal.Binary64

/-!
The shortest decimal that reads back as a given binary64 number.

A finite number stands for the interval of reals that round to it; its ends belong to it exactly
when the significand is even. Of the decimal grids with 1, 2, … 17 digits the first that has a
point in the interval gives the digits: of the number's two neighbours on that grid the nearer
one inside, the even one of two equally near.
-/

namespace Counsel.Decimal

/-- A positive decimal `digits * 10 ^ exponent`, with no trailing zero in its digits. -/
structure Digits where
  digits : Nat
  exponent : Int
  deriving DecidableEq, Repr

/-- The reals that round to a number, as multiples of `1 / den`. -/
structure Interval where
  low : Nat
  value : Nat
  high : Nat
  den : Nat
  closed : Bool

/-- The interval of a positive finite number, in quarters of its last place. -/
def Interval.of (significand : Nat) (exponent : Int) : Interval :=
  let unit : Nat × Nat :=
    if exponent < 0 then (1, Nat.pow 2 (-exponent).toNat) else (Nat.pow 2 exponent.toNat, 1)
  let below :=
    if significand = Nat.pow 2 52 ∧ Binary64.leastExponent < exponent then 1 else 2
  { low := (4 * significand - below) * unit.1
    value := 4 * significand * unit.1
    high := (4 * significand + 2) * unit.1
    den := 4 * unit.2
    closed := significand % 2 = 0 }

/-- Whether `point * 10 ^ exponent` lies in the interval. -/
def Interval.holds (i : Interval) (point : Nat) (exponent : Int) : Bool :=
  let scaled :=
    if exponent < 0 then point * i.den else point * i.den * Nat.pow 10 exponent.toNat
  let factor := if exponent < 0 then Nat.pow 10 (-exponent).toNat else 1
  if i.closed then i.low * factor ≤ scaled && scaled ≤ i.high * factor
  else i.low * factor < scaled && scaled < i.high * factor

/-- The point of the grid `10 ^ exponent` inside the interval that is nearest to its value. -/
def Interval.pointOn (i : Interval) (exponent : Int) : Option Nat :=
  let num := if exponent < 0 then i.value * Nat.pow 10 (-exponent).toNat else i.value
  let den := if exponent < 0 then i.den else i.den * Nat.pow 10 exponent.toNat
  let below := num / den
  let nearest := Binary64.roundEven num den
  let other := if nearest = below then below + 1 else below
  if i.holds nearest exponent then some nearest
  else if i.holds other exponent then some other
  else none

/-- Moves trailing zeros of the digits into the exponent, at most `fuel` of them. -/
def Digits.dropZeros : Nat → Digits → Digits
  | 0, d => d
  | fuel + 1, d =>
      if d.digits % 10 = 0 ∧ d.digits ≠ 0 then
        dropZeros fuel ⟨d.digits / 10, d.exponent + 1⟩
      else d

/-- The number of decimal digits of a positive natural. -/
def digitCount (n : Nat) : Nat := (Nat.toDigits 10 n).length

/-- The decimal exponent of the leading digit of `num / den`. -/
def leadingExponent (num den : Nat) : Int :=
  if den ≤ num then (digitCount (num / den) : Int) - 1
  else
    let shift := digitCount (den / num)
    if den ≤ num * Nat.pow 10 (shift - 1) then -((shift : Int) - 1) else -(shift : Int)

/-- The first grid with a point in the interval, tried from the one with `count` digits on. -/
def Interval.search (i : Interval) (leading : Int) : Nat → Nat → Digits
  | _, 0 => ⟨i.value / i.den, 0⟩
  | count, fuel + 1 =>
      let exponent := leading - ((count : Int) - 1)
      match i.pointOn exponent with
      | some point => Digits.dropZeros 20 ⟨point, exponent⟩
      | none => i.search leading (count + 1) fuel

/-- The shortest decimal of a positive finite number. -/
def shortest (significand : Nat) (exponent : Int) : Digits :=
  let i := Interval.of significand exponent
  i.search (leadingExponent i.value i.den) 1 17

/-- How a number is laid out: without an exponent from `10 ^ least` up to below `10 ^ bound`. -/
structure Layout where
  least : Int
  bound : Int
  deriving Repr

/-- The text of a positive decimal in a layout. A number without an exponent keeps a digit on each
side of the point; an exponent has its sign and no padding. -/
def Digits.text (layout : Layout) (d : Digits) : String :=
  let ds := Nat.toDigits 10 d.digits
  let leading : Int := d.exponent + ds.length - 1
  if layout.least ≤ leading ∧ leading < layout.bound then
    if 0 ≤ d.exponent then
      .ofList (ds ++ List.replicate d.exponent.toNat '0' ++ ['.', '0'])
    else if 0 ≤ leading then
      .ofList (ds.take (leading.toNat + 1) ++ '.' :: ds.drop (leading.toNat + 1))
    else
      .ofList ('0' :: '.' :: List.replicate (-leading - 1).toNat '0' ++ ds)
  else
    let mantissa := match ds with
      | [c] => [c]
      | c :: rest => c :: '.' :: rest
      | [] => []
    let sign := if leading < 0 then '-' else '+'
    .ofList (mantissa ++ 'e' :: sign :: Nat.toDigits 10 leading.natAbs)

/-- The text of a number; those that are not finite have none in the formats that use this. -/
def Binary64.text (layout : Layout) : Binary64 → String
  | .nan => "null"
  | .infinite _ => "null"
  | .finite negative significand exponent =>
      let sign := if negative then "-" else ""
      if significand = 0 then sign ++ "0.0"
      else sign ++ (shortest significand exponent).text layout

end Counsel.Decimal
