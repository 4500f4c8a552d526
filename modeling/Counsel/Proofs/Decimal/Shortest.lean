import Counsel.Decimal.Shortest

/-!
The digits of the shortest decimal.

The interval of a positive number does not reach down to zero (`Interval.low_pos`), so no grid
offers zero as a point inside it, and moving trailing zeros into the exponent leaves a digit. A
search that finds no point falls back on an integer, whose exponent is zero.
-/

namespace Counsel.Decimal

variable {i : Interval} {exponent : Int}

/-- The interval of a positive number does not reach down to zero. -/
theorem Interval.low_pos {significand : Nat} (positive : 0 < significand) (exponent : Int) :
    0 < (Interval.of significand exponent).low := by
  unfold Interval.of
  dsimp only
  refine Nat.mul_pos ?_ ?_
  · split <;> omega
  · split
    · exact Nat.one_pos
    · exact Nat.pow_pos (by decide)

theorem Interval.not_holds_zero (positive : 0 < i.low) (exponent : Int) :
    i.holds 0 exponent = false := by
  have factor : 0 < if exponent < 0 then Nat.pow 10 (-exponent).toNat else 1 := by
    split
    · exact Nat.pow_pos (by decide)
    · exact Nat.one_pos
  have above := Nat.mul_pos positive factor
  simp only [holds, Nat.zero_mul, ite_self]
  split
  · exact Bool.and_eq_false_iff.mpr (.inl (decide_eq_false (Nat.not_le.mpr above)))
  · exact Bool.and_eq_false_iff.mpr (.inl (decide_eq_false (Nat.not_lt_zero _)))

/-- A point that a grid offers is inside the interval. -/
theorem Interval.holds_pointOn {point : Nat} (found : i.pointOn exponent = some point) :
    i.holds point exponent = true := by
  have chosen : ∀ nearest other : Nat, (if i.holds nearest exponent then some nearest
      else if i.holds other exponent then some other else none) = some point →
      i.holds point exponent = true := by
    intro nearest other taken
    split at taken
    · rename_i inside
      rwa [← Option.some.inj taken]
    · obtain ⟨inside, same⟩ := Option.ite_none_right_eq_some.mp taken
      rwa [← Option.some.inj same]
  exact chosen _ _ found

theorem Interval.pointOn_ne_zero {point : Nat} (positive : 0 < i.low)
    (found : i.pointOn exponent = some point) : point ≠ 0 := by
  rintro rfl
  have inside := holds_pointOn found
  rw [not_holds_zero positive exponent] at inside
  cases inside

theorem Digits.dropZeros_ne_zero : ∀ (fuel : Nat) {d : Digits}, d.digits ≠ 0 →
    (dropZeros fuel d).digits ≠ 0
  | 0, _, nonzero => nonzero
  | fuel + 1, d, nonzero => by
      unfold dropZeros
      split
      · exact dropZeros_ne_zero fuel (by dsimp only; omega)
      · exact nonzero

theorem Interval.search_digits (positive : 0 < i.low) (leading : Int) : ∀ fuel count : Nat,
    (i.search leading count fuel).digits ≠ 0 ∨ (i.search leading count fuel).exponent = 0
  | 0, _ => Or.inr rfl
  | fuel + 1, count => by
      unfold search
      dsimp only
      split
      · rename_i found
        exact Or.inl (Digits.dropZeros_ne_zero 20 (pointOn_ne_zero positive found))
      · exact search_digits positive leading fuel (count + 1)

/-- The shortest decimal of a positive number has digits other than zero, or is an integer as it
stands. -/
theorem shortest_digits {significand : Nat} (positive : 0 < significand) (exponent : Int) :
    (shortest significand exponent).digits ≠ 0 ∨ (shortest significand exponent).exponent = 0 :=
  Interval.search_digits (Interval.low_pos positive exponent) _ 17 1

end Counsel.Decimal
