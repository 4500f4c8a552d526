/-!
Numbers of the IEEE 754 format binary64 as exact values: a sign, a significand below `2 ^ 53` and
an exponent of two. `Binary64.ofRatio` gives the number nearest to a quotient, a tie going to the
even significand; products and quotients are the nearest numbers to the exact results, and
comparison is that of the exact values.

Everything here is arithmetic on `Nat` and `Int`, so a statement about numbers that answers and
thresholds denote needs nothing about the machine's own arithmetic.
-/

namespace Counsel.Decimal

/-- A number of the format binary64. The finite value is `± significand * 2 ^ exponent`. -/
inductive Binary64 where
  | nan
  | infinite (negative : Bool)
  | finite (negative : Bool) (significand : Nat) (exponent : Int)
  deriving DecidableEq, Repr

namespace Binary64

/-- The least exponent of a significand: that of the subnormal numbers. -/
def leastExponent : Int := -1074

/-- The greatest exponent of a significand. -/
def greatestExponent : Int := 971

/-- Zero, with the given sign. -/
def zero (negative : Bool) : Binary64 := .finite negative 0 leastExponent

/-- The quotient of two naturals, rounded to the nearest natural, a tie to the even one. -/
def roundEven (num den : Nat) : Nat :=
  let quotient := num / den
  let rest := num % den
  if 2 * rest < den then quotient
  else if den < 2 * rest then quotient + 1
  else if quotient % 2 = 0 then quotient else quotient + 1

/-- Numerator and denominator of `num / den * 2 ^ (-exponent)`. -/
def scaled (num den : Nat) (exponent : Int) : Nat × Nat :=
  if exponent < 0 then (num * Nat.pow 2 (-exponent).toNat, den)
  else (num, den * Nat.pow 2 exponent.toNat)

/-- The exponent at which a positive quotient has a significand of 53 bits, or the least exponent
where it has fewer. -/
def fittingExponent (num den : Nat) : Int :=
  let guess : Int := (num.log2 : Int) - (den.log2 : Int) - 52
  let (n, d) := scaled num den guess
  let exponent := if n / d < Nat.pow 2 52 then guess - 1 else guess
  max exponent leastExponent

/-- The number nearest to `± num / den`; infinite where the nearest significand of 53 bits has too
great an exponent. -/
def ofRatio (negative : Bool) (num den : Nat) : Binary64 :=
  if num = 0 then zero negative
  else
    let exponent := fittingExponent num den
    let (n, d) := scaled num den exponent
    let rounded := roundEven n d
    let (significand, exponent) :=
      if rounded = Nat.pow 2 53 then (Nat.pow 2 52, exponent + 1) else (rounded, exponent)
    if greatestExponent < exponent then .infinite negative
    else .finite negative significand exponent

/-- The number nearest to an integer. -/
def ofInt (n : Int) : Binary64 := ofRatio (n < 0) n.natAbs 1

/-- The number nearest to `± significand * 10 ^ exponent`. -/
def ofDecimal (negative : Bool) (significand : Nat) (exponent : Int) : Binary64 :=
  if exponent < 0 then ofRatio negative significand (Nat.pow 10 (-exponent).toNat)
  else ofRatio negative (significand * Nat.pow 10 exponent.toNat) 1

/-- The number with the other sign. -/
def neg : Binary64 → Binary64
  | .nan => .nan
  | .infinite negative => .infinite !negative
  | .finite negative s e => .finite (!negative) s e

def isFinite : Binary64 → Bool
  | .finite .. => true
  | _ => false

def isZero : Binary64 → Bool
  | .finite _ s _ => s == 0
  | _ => false

/-- A finite number times a power of ten that is a number itself. -/
def mulPowTen (x : Binary64) (power : Nat) : Binary64 :=
  match x, ofRatio false (Nat.pow 10 power) 1 with
  | .finite negative s e, .finite _ t f =>
      if e + f < 0 then ofRatio negative (s * t) (Nat.pow 2 (-(e + f)).toNat)
      else ofRatio negative (s * t * Nat.pow 2 (e + f).toNat) 1
  | x, _ => x

/-- A finite number divided by a power of ten that is a number itself. -/
def divPowTen (x : Binary64) (power : Nat) : Binary64 :=
  match x, ofRatio false (Nat.pow 10 power) 1 with
  | .finite negative s e, .finite _ t f =>
      if e - f < 0 then ofRatio negative s (t * Nat.pow 2 (-(e - f)).toNat)
      else ofRatio negative (s * Nat.pow 2 (e - f).toNat) t
  | x, _ => x

/-! ### Comparison -/

/-- The integer `± significand * 2 ^ (exponent - unit)`, for a unit that is not above the
exponent. -/
def aligned (negative : Bool) (significand : Nat) (exponent unit : Int) : Int :=
  let magnitude : Int := significand * Int.pow 2 (exponent - unit).toNat
  if negative then -magnitude else magnitude

/-- The order of two numbers; nothing where one of them is no number. -/
def compare? : Binary64 → Binary64 → Option Ordering
  | .nan, _ => none
  | _, .nan => none
  | .infinite a, .infinite b => some (if a = b then .eq else if a then .lt else .gt)
  | .infinite a, _ => some (if a then .lt else .gt)
  | _, .infinite b => some (if b then .gt else .lt)
  | .finite a s e, .finite b t f =>
      some (compare (aligned a s e (min e f)) (aligned b t f (min e f)))

def lt (x y : Binary64) : Bool := x.compare? y == some .lt

def le (x y : Binary64) : Bool := x.compare? y == some .lt || x.compare? y == some .eq

/-- Equality of values: both zeros are equal, and no number equals `nan`. -/
def eq (x y : Binary64) : Bool := x.compare? y == some .eq

/-- The greater of two numbers; the other one where one of them is `nan`. -/
def max : Binary64 → Binary64 → Binary64
  | .nan, y => y
  | x, .nan => x
  | x, y => if x.lt y then y else x

end Binary64
end Counsel.Decimal
