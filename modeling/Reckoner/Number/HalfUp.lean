/-!
# Rounding half up

The integer nearest to a quotient, halves going away from zero, and the powers of ten by which a
number of places after the point is counted.

**Results.**
* `roundMagnitude_le`, `lt_roundMagnitude`: twice the rounded quotient of magnitudes lies within one
  divisor of twice the dividend, and a half goes up.
* `roundQuotient_neg`: negating the dividend negates the rounded quotient.
-/

namespace Reckoner

/-- `10` to the power `n`. -/
def tenPow (n : Nat) : Nat := Nat.pow 10 n

theorem tenPow_pos (n : Nat) : 0 < tenPow n := Nat.pow_pos (by decide)

theorem tenPow_ne_zero (n : Nat) : (tenPow n : Int) ≠ 0 := by
  have h := tenPow_pos n
  omega

theorem tenPow_succ (n : Nat) : tenPow (n + 1) = tenPow n * 10 := rfl

theorem tenPow_add (m n : Nat) : tenPow (m + n) = tenPow m * tenPow n := Nat.pow_add 10 m n

/-- The quotient of two magnitudes, a remainder of half the divisor or more rounding up. -/
def roundMagnitude (n d : Nat) : Nat :=
  if d ≤ 2 * (n % d) then n / d + 1 else n / d

theorem roundMagnitude_le (n d : Nat) : 2 * (roundMagnitude n d * d) ≤ 2 * n + d := by
  have h := Nat.div_add_mod n d
  unfold roundMagnitude
  split
  · rw [Nat.add_mul, Nat.one_mul, Nat.mul_comm (n / d)]
    omega
  · rw [Nat.mul_comm (n / d)]
    omega

theorem lt_roundMagnitude (n : Nat) {d : Nat} (hd : 0 < d) :
    2 * n < 2 * (roundMagnitude n d * d) + d := by
  have h := Nat.div_add_mod n d
  have hr := Nat.mod_lt n hd
  unfold roundMagnitude
  split
  · rw [Nat.add_mul, Nat.one_mul, Nat.mul_comm (n / d)]
    omega
  · rw [Nat.mul_comm (n / d)]
    omega

@[simp] theorem roundMagnitude_zero {d : Nat} (hd : 0 < d) : roundMagnitude 0 d = 0 := by
  simp [roundMagnitude, Nat.not_le.mpr hd]

/-- The integer nearest to `n / d`, halves going away from zero. -/
def roundQuotient (n d : Int) : Int :=
  let magnitude : Int := roundMagnitude n.natAbs d.natAbs
  if (n < 0) = (d < 0) then magnitude else -magnitude

theorem roundQuotient_neg (n : Int) {d : Int} (hd : d ≠ 0) :
    roundQuotient (-n) d = -roundQuotient n d := by
  unfold roundQuotient
  by_cases hn : n = 0
  · subst hn
    simp [Int.natAbs_pos.mpr hd]
  · simp only [Int.natAbs_neg]
    by_cases h : (n < 0) = (d < 0)
    · have h' : (-n < 0) ≠ (d < 0) := by
        intro e
        have := e.trans h.symm
        rw [eq_iff_iff] at this
        omega
      rw [if_neg h', if_pos h]
    · have h' : (-n < 0) = (d < 0) := by
        rw [eq_iff_iff] at h ⊢
        omega
      rw [if_pos h', if_neg h, Int.neg_neg]

end Reckoner
