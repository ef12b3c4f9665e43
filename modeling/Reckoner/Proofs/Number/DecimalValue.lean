import Reckoner.Number.Value
import Reckoner.Proofs.Number.RationalValue
import Mathlib.Algebra.Order.Field.Basic
import Mathlib.Tactic.Positivity

/-!
# The numbers of decimals

A `Decimal` stands for a number of `ℚ`, and so does the `Number` of a value.  A rational that becomes
a decimal of some places is rounded, and if it is small enough the decimal is zero.

**Results.**
* `isZero_iff`: a decimal is zero if its number is.
* `roundMagnitude_eq_zero_iff`: what is less than half the divisor rounds to zero.
* `isZero_rounded_iff`: so does a rational nearer to zero than half a unit of the last place.
-/

namespace Reckoner

/-- What is less than half the divisor rounds to zero. -/
theorem roundMagnitude_eq_zero_iff
    (n : Nat)
    {d : Nat}
    (hd : 0 < d) :
    roundMagnitude n d = 0 ↔ 2 * n < d := by
  constructor
  · intro h
    have hlt := lt_roundMagnitude n hd
    rw [h] at hlt
    omega
  · intro h
    have hle := roundMagnitude_le n d
    by_contra hne
    have hmul : 1 * d ≤ roundMagnitude n d * d :=
      Nat.mul_le_mul_right d (Nat.pos_of_ne_zero hne)
    omega

theorem natAbs_roundQuotient
    (n d : Int) :
    (roundQuotient n d).natAbs = roundMagnitude n.natAbs d.natAbs := by
  unfold roundQuotient
  dsimp only
  split <;> simp

namespace Decimal

/-- The number of a decimal. -/
def toRat (d : Decimal) : ℚ := d.signed * 10 ^ d.exponent

theorem signed_eq_zero_iff
    (d : Decimal) :
    d.signed = 0 ↔ d.coefficient = 0 := by
  unfold signed
  split <;> omega

/-- A decimal is zero if its number is. -/
theorem isZero_iff
    (d : Decimal) :
    d.isZero = true ↔ d.toRat = 0 := by
  have hpow : (10 : ℚ) ^ d.exponent ≠ 0 :=
    zpow_ne_zero _ (by norm_num)
  rw [isZero, beq_iff_eq, ← signed_eq_zero_iff, toRat, mul_eq_zero, or_iff_left hpow,
    Int.cast_eq_zero]

end Decimal

/-- A rational nearer to zero than half a unit of the last place becomes a zero. -/
theorem Rational.isZero_rounded_iff
    (q : Rational)
    (places : Nat) :
    (q.rounded places).isZero = true ↔ |q.toRat| < 1 / (2 * 10 ^ places) := by
  have hden : (0 : ℚ) < q.den :=
    Nat.cast_pos.mpr q.den_pos
  have hscaled : (0 : ℚ) < 2 * 10 ^ places :=
    by positivity
  have hunits :
      (q.num * (tenPow places : Int)).natAbs = q.num.natAbs * tenPow places := by
    rw [Int.natAbs_mul, Int.natAbs_natCast]
  have habs : |q.toRat| = (q.num.natAbs : ℚ) / q.den := by
    rw [toRat_eq_div, abs_div, Nat.abs_cast, Nat.cast_natAbs, Int.cast_abs]
  rw [rounded, Decimal.halfUp, Decimal.isZero, beq_iff_eq, Decimal.ofUnits, natAbs_roundQuotient,
    hunits, Int.natAbs_natCast, roundMagnitude_eq_zero_iff _ q.den_pos, habs,
    div_lt_div_iff₀ hden hscaled, one_mul, ← Nat.cast_lt (α := ℚ)]
  push_cast
  rw [cast_tenPow, mul_left_comm]

/-- The number of an exact or an approximate number. -/
def Number.toRat : Number → ℚ
  | .exact q => q.toRat
  | .approximate d => d.toRat

end Reckoner
