import Reckoner.Number.Binary64
import Mathlib.Tactic.Common

/-!
# Integers among the floating-point numbers

A floating-point number that is an integer compares with integers as that integer does.

**Results.**
* `lessThanInt_iff`, `greaterThanInt_iff`: the comparisons of such a number.
-/

namespace Reckoner
namespace Binary64

/-- The signed numerator of a finite number. -/
def signedNum (negative : Bool) (m : Nat) (e : Int) : Int :=
  if negative then -(magnitudeNum m e : Int) else magnitudeNum m e

theorem magnitudeDen_pos
    (e : Int) :
    0 < magnitudeDen e :=
  Nat.pow_pos (by decide)

/-- The numerator of an integer is a multiple of the power of two below it. -/
theorem signedNum_of_toInt?
    {negative : Bool} {m : Nat} {e n : Int}
    (h : toInt? (finite negative m e) = some n) :
    signedNum negative m e = n * magnitudeDen e := by
  unfold toInt? at h
  dsimp only at h
  split at h
  · next hmod =>
      have hnum :
          (magnitudeNum m e : Int) = (magnitudeNum m e / magnitudeDen e : Nat) * magnitudeDen e := by
        exact_mod_cast (Nat.div_mul_cancel (Nat.dvd_of_mod_eq_zero hmod)).symm
      rw [← Option.some.inj h, signedNum]
      cases negative with
      | false =>
          exact hnum
      | true =>
          rw [if_pos rfl, if_pos rfl, Int.neg_mul, ← hnum]
  · cases h

variable {x : Binary64}
variable {n : Int}

/-- An integer is below the integers that are greater. -/
theorem lessThanInt_iff
    (h : x.toInt? = some n)
    (bound : Int) :
    x.lessThanInt bound = true ↔ n < bound := by
  cases x with
  | finite negative m e =>
      have hden : (0 : Int) < magnitudeDen e :=
        Int.natCast_pos.mpr (magnitudeDen_pos e)
      have hnum := signedNum_of_toInt? h
      rw [lessThanInt, decide_eq_true_eq, ← signedNum, hnum]
      exact Int.mul_lt_mul_right hden
  | infinite negative | nan =>
      cases h

/-- An integer is above the integers that are smaller. -/
theorem greaterThanInt_iff
    (h : x.toInt? = some n)
    (bound : Int) :
    x.greaterThanInt bound = true ↔ bound < n := by
  cases x with
  | finite negative m e =>
      have hden : (0 : Int) < magnitudeDen e :=
        Int.natCast_pos.mpr (magnitudeDen_pos e)
      have hnum := signedNum_of_toInt? h
      rw [greaterThanInt, decide_eq_true_eq, ← signedNum, hnum]
      exact Int.mul_lt_mul_right hden
  | infinite negative | nan =>
      cases h

end Binary64
end Reckoner
