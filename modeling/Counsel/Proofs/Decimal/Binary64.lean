import Counsel.Decimal.Binary64
import Mathlib.Algebra.Order.Field.Basic
import Mathlib.Algebra.Order.Field.Power
import Mathlib.Data.Nat.Log
import Mathlib.Data.Rat.Cast.Order
import Mathlib.Tactic.FieldSimp
import Mathlib.Tactic.Positivity
import Mathlib.Tactic.Ring

/-!
The values of binary64 numbers.

`Binary64.Denotes` says which rational a finite number stands for. Comparing two finite numbers
compares their values (`lt_iff`, `le_iff`, `eq_iff`), and the greater of two has the greater value
(`max_denotes`): the alignment of their exponents loses nothing.

* `ofRatio_denotes`: a quotient that is an integer of at most `2 ^ 53` is rounded to itself, in
  whatever form the quotient is given.
-/

namespace Counsel.Decimal.Binary64

/-- A value with a sign. -/
def signed (negative : Bool) (q : ℚ) : ℚ := if negative then -q else q

theorem abs_signed {negative : Bool} {q : ℚ} (nonneg : 0 ≤ q) : |signed negative q| = q := by
  cases negative with
  | false => exact abs_of_nonneg nonneg
  | true => exact (abs_neg q).trans (abs_of_nonneg nonneg)

/-- The number is finite and has this value. -/
def Denotes : Binary64 → ℚ → Prop
  | .finite negative significand exponent, q => signed negative (significand * 2 ^ exponent) = q
  | _, _ => False

variable {x y : Binary64} {p q : ℚ}

theorem Denotes.isFinite (denotes : x.Denotes q) :
    ∃ negative significand exponent, x = .finite negative significand exponent := by
  cases x with
  | finite negative significand exponent => exact ⟨_, _, _, rfl⟩
  | nan => exact denotes.elim
  | infinite negative => exact denotes.elim

theorem Denotes.unique (left : x.Denotes p) (right : x.Denotes q) : p = q := by
  obtain ⟨_, _, _, rfl⟩ := left.isFinite
  exact left.symm.trans right

theorem zero_denotes (negative : Bool) : (zero negative).Denotes 0 := by
  cases negative <;> simp [zero, Denotes, signed]

/-! ### Comparison -/

/-- Alignment to a unit that is not above the exponent is exact. -/
theorem aligned_eq (negative : Bool) (significand : Nat) {exponent unit : Int}
    (below : unit ≤ exponent) :
    (aligned negative significand exponent unit : ℚ) * 2 ^ unit =
      signed negative (significand * 2 ^ exponent) := by
  have shift : ((exponent - unit).toNat : ℤ) = exponent - unit := Int.toNat_of_nonneg (by omega)
  have power : (2 : ℚ) ^ (exponent - unit).toNat * 2 ^ unit = 2 ^ exponent := by
    rw [← zpow_natCast, shift, ← zpow_add₀ two_ne_zero, sub_add_cancel]
  have magnitude : ((significand : ℤ) * Int.pow 2 (exponent - unit).toNat : ℤ) * (2 : ℚ) ^ unit =
      significand * 2 ^ exponent := by
    have spelled : Int.pow 2 (exponent - unit).toNat = 2 ^ (exponent - unit).toNat := rfl
    rw [spelled]
    push_cast
    rw [mul_assoc, power]
  cases negative with
  | false => simpa [aligned, signed] using magnitude
  | true => simpa [aligned, signed] using magnitude

/-- Finite numbers are compared by their values. -/
theorem compare?_denotes (left : x.Denotes p) (right : y.Denotes q) :
    x.compare? y = some (compare p q) := by
  obtain ⟨a, s, e, rfl⟩ := left.isFinite
  obtain ⟨b, t, f, rfl⟩ := right.isFinite
  have first := aligned_eq a s (min_le_left e f)
  have second := aligned_eq b t (min_le_right e f)
  rw [show _ = p from left] at first
  rw [show _ = q from right] at second
  have unit : (0 : ℚ) < 2 ^ min e f := by positivity
  simp only [compare?, Option.some.injEq, ← first, ← second]
  rcases lt_trichotomy (aligned a s e (min e f)) (aligned b t f (min e f)) with less | same | more
  · rw [compare_lt_iff_lt.mpr less, eq_comm, compare_lt_iff_lt]
    exact mul_lt_mul_of_pos_right (Int.cast_lt.mpr less) unit
  · rw [same, compare_eq_iff_eq.mpr rfl, compare_eq_iff_eq.mpr rfl]
  · rw [compare_gt_iff_gt.mpr more, eq_comm, compare_gt_iff_gt]
    exact mul_lt_mul_of_pos_right (Int.cast_lt.mpr more) unit

theorem lt_iff (left : x.Denotes p) (right : y.Denotes q) : x.lt y = true ↔ p < q := by
  rw [lt, compare?_denotes left right, ← compare_lt_iff_lt]
  simp

theorem le_iff (left : x.Denotes p) (right : y.Denotes q) : x.le y = true ↔ p ≤ q := by
  rw [le, compare?_denotes left right, ← compare_le_iff_le]
  cases compare p q <;> decide

theorem eq_iff (left : x.Denotes p) (right : y.Denotes q) : x.eq y = true ↔ p = q := by
  rw [eq, compare?_denotes left right, ← compare_eq_iff_eq]
  simp

/-- The greater of two finite numbers has the greater value. -/
theorem max_denotes (left : x.Denotes p) (right : y.Denotes q) :
    (x.max y).Denotes (Max.max p q) := by
  have chosen : x.max y = if x.lt y then y else x := by
    obtain ⟨a, s, e, rfl⟩ := left.isFinite
    obtain ⟨b, t, f, rfl⟩ := right.isFinite
    rfl
  rw [chosen]
  by_cases less : x.lt y = true
  · rwa [if_pos less, max_eq_right ((lt_iff left right).mp less).le]
  · rwa [if_neg less, max_eq_left (not_lt.mp (mt (lt_iff left right).mpr less))]

/-- Every finite number is greater than the infinite negative one. -/
theorem max_infinite (denotes : x.Denotes q) : (infinite true).max x = x := by
  obtain ⟨a, s, e, rfl⟩ := denotes.isFinite
  rfl

/-! ### Integers -/

/-- A quotient that is an integer is not rounded. -/
theorem roundEven_mul (n : Nat) {den : Nat} (positive : 0 < den) : roundEven (n * den) den = n := by
  simp [roundEven, Nat.mul_div_cancel n positive, positive]

/-- Scaling by a power of two that is not negative divides. -/
theorem scaled_div (n : Nat) {den : Nat} (positive : 0 < den) (k : Nat) :
    (scaled (n * den) den k).1 / (scaled (n * den) den k).2 = n / 2 ^ k := by
  have up : ¬ ((k : Int) < 0) := by omega
  simp only [scaled, if_neg up, Int.toNat_natCast]
  exact (congrArg (· / (den * 2 ^ k)) (Nat.mul_comm n den)).trans
    (Nat.mul_div_mul_left n (2 ^ k) positive)

/-- Of an integer of at most `2 ^ 53` the exponent leaves no fraction: it is not positive, or it is
one and the integer is `2 ^ 53` itself. -/
theorem fittingExponent_le {n den : Nat} (nonzero : 0 < n) (positive : 0 < den)
    (small : n ≤ 2 ^ 53) :
    fittingExponent (n * den) den ≤ 0 ∨ n = 2 ^ 53 ∧ fittingExponent (n * den) den = 1 := by
  have size : (n * den).log2 ≤ n.log2 + den.log2 + 1 := by
    have below : n * den < 2 ^ (n.log2 + 1) * 2 ^ (den.log2 + 1) :=
      Nat.mul_lt_mul'' Nat.lt_log2_self Nat.lt_log2_self
    rw [← Nat.pow_add] at below
    have := (Nat.log2_lt (Nat.mul_pos nonzero positive).ne').mpr below
    omega
  unfold fittingExponent
  set guess : Int := ((n * den).log2 : Int) - (den.log2 : Int) - 52 with guessed
  rcases lt_or_eq_of_le small with less | whole
  · -- The guess is at most one, and where it is one, half of `n` is below `2 ^ 52`.
    left
    have bits : n.log2 < 53 := (Nat.log2_lt nonzero.ne').mpr less
    have bound : guess ≤ 1 := by omega
    by_cases one : guess = 1
    · have halved := scaled_div n positive 1
      have half : n / 2 ^ 1 < Nat.pow 2 52 := by
        show n / 2 ^ 1 < 2 ^ 52
        omega
      rw [Nat.cast_one, ← one] at halved
      simp only [halved, if_pos half]
      simp only [one, leastExponent]
      decide
    · simp only [leastExponent]
      split <;> omega
  · -- The guess is at most two, and where it is two, a quarter of `n` is below `2 ^ 52`.
    have bits : n.log2 < 54 := (Nat.log2_lt nonzero.ne').mpr (by omega)
    have bound : guess ≤ 2 := by omega
    by_cases two : guess = 2
    · have quartered := scaled_div n positive 2
      have quarter : n / 2 ^ 2 < Nat.pow 2 52 := by
        show n / 2 ^ 2 < 2 ^ 52
        omega
      rw [Nat.cast_ofNat, ← two] at quartered
      simp only [quartered, if_pos quarter]
      simp only [two, leastExponent]
      exact Or.inr ⟨whole, by decide⟩
    · simp only [leastExponent]
      split <;> omega

/-- At that exponent the significand is an integer. -/
theorem exists_scaled_eq {n den : Nat} (nonzero : 0 < n) (positive : 0 < den)
    (small : n ≤ 2 ^ 53) :
    let e := fittingExponent (n * den) den
    ∃ m, (scaled (n * den) den e).1 = m * (scaled (n * den) den e).2 ∧
      0 < (scaled (n * den) den e).2 ∧ (m : ℚ) * 2 ^ e = n := by
  intro e
  rcases fittingExponent_le nonzero positive small with low | ⟨rfl, one⟩
  · obtain ⟨k, down⟩ : ∃ k : ℕ, e = -k := ⟨(-e).toNat, by omega⟩
    rw [down]
    refine ⟨n * 2 ^ k, ?_, ?_, ?_⟩
    · cases k with
      | zero => simp [scaled]
      | succ k =>
          have below : (-((k + 1 : ℕ) : ℤ)) < 0 := by omega
          simp only [scaled, if_pos below, neg_neg, Int.toNat_natCast]
          show n * den * 2 ^ (k + 1) = n * 2 ^ (k + 1) * den
          ring
    · simp only [scaled]
      split
      · exact positive
      · exact Nat.mul_pos positive (Nat.two_pow_pos _)
    · rw [zpow_neg, zpow_natCast]
      push_cast
      field_simp
  · rw [show e = 1 from one]
    exact ⟨2 ^ 52, by simp [scaled]; ring, by simpa [scaled] using positive, by norm_num⟩

/-- An integer of at most `2 ^ 53` is rounded to itself, whatever quotient it is given as. -/
theorem ofRatio_denotes (negative : Bool) {num den n : Nat} (whole : num = n * den)
    (positive : 0 < den) (small : n ≤ 2 ^ 53) :
    (ofRatio negative num den).Denotes (signed negative n) := by
  subst whole
  rcases Nat.eq_zero_or_pos n with rfl | nonzero
  · simpa [ofRatio, signed] using zero_denotes negative
  · have product : n * den ≠ 0 := (Nat.mul_pos nonzero positive).ne'
    obtain ⟨m, cut, divisor, value⟩ := exists_scaled_eq nonzero positive small
    have low : fittingExponent (n * den) den ≤ 1 := by
      rcases fittingExponent_le nonzero positive small with low | ⟨-, one⟩ <;> omega
    simp only [ofRatio, if_neg product, cut, roundEven_mul m divisor]
    by_cases full : m = Nat.pow 2 53
    · have within : ¬ greatestExponent < fittingExponent (n * den) den + 1 := by
        simp only [greatestExponent]
        omega
      have double : ((Nat.pow 2 53 : ℕ) : ℚ) = (Nat.pow 2 52 : ℕ) * 2 := by norm_cast
      simp only [if_pos full, if_neg within, Denotes]
      rw [← value, full, double, zpow_add_one₀ two_ne_zero, mul_assoc, mul_comm 2]
    · have within : ¬ greatestExponent < fittingExponent (n * den) den := by
        simp only [greatestExponent]
        omega
      simp only [if_neg full, if_neg within, Denotes, value]

/-- An integer of at most `2 ^ 53` is a number. -/
theorem ofInt_denotes {n : Int} (small : |n| ≤ 2 ^ 53) : (ofInt n).Denotes n := by
  have bound : n.natAbs ≤ 2 ^ 53 := by
    rw [Int.abs_eq_natAbs] at small
    exact_mod_cast small
  have value : signed (n < 0) n.natAbs = n := by
    rw [signed, Nat.cast_natAbs]
    by_cases below : n < 0
    · simp [below, abs_of_neg below]
    · simp [below, abs_of_nonneg (not_lt.mp below)]
  rw [← value]
  exact ofRatio_denotes _ (Nat.mul_one _).symm Nat.one_pos bound

end Counsel.Decimal.Binary64
