import Reckoner.Proofs.Number.CheckedArithmetic
import Mathlib.Algebra.Order.Field.Rat
import Mathlib.Tactic.Linarith
import Mathlib.Tactic.Ring

/-!
# Rounding to the nearest integer

A number is rounded half up to the integer nearest to it, and of two that are equally near to the one
farther from zero.  This is said here of numbers of `ℚ`, without a division, a remainder or a sign set
apart.  Every number has at most one such integer, and a larger number has no smaller one.  The quotient
of two integers as a decimal has it for its coefficient, so what is true of rounding is true of
quotients whatever the signs and the parity of their parts.

**Results.**
* `IsHalfUp.le_of_le`, `IsHalfUp.unique`: rounding is monotone, and has one result.
* `isHalfUp_roundQuotient`: the rounded quotient is the quotient, rounded.
* `den_dvd_pow_iff`: the numbers that have so many decimal places.
* `halfUpQuotient_iff`: the same in integers.
* `Decimal.halfUp_eq_ofRat`: a quotient of integers is the decimal of its number.
* `divideIntegers_halfUp`: quotients as decimals.
-/

namespace Reckoner

/-- An integer is a number rounded half up: none is nearer to the number, and if it is a half away from
the number, it is on the side away from zero. -/
structure IsHalfUp (x : ℚ) (q : ℤ) : Prop where
  near : |x - q| ≤ 1 / 2
  away : |x - q| = 1 / 2 → |x| < |(q : ℚ)|

namespace IsHalfUp

variable {x y : ℚ} {p q : ℤ}

theorem neg
    (h : IsHalfUp x q) :
    IsHalfUp (-x) (-q) := by
  have hdiff : -x - ((-q : ℤ) : ℚ) = -(x - q) := by
    push_cast
    ring
  constructor
  · rw [hdiff, abs_neg]
    exact h.near
  · rw [hdiff, abs_neg, Int.cast_neg, abs_neg, abs_neg]
    exact h.away

/-- An integer is rounded to itself. -/
theorem intCast
    (q : ℤ) :
    IsHalfUp q q := by
  constructor
  · simp
  · intro h
    simp at h

/-- For a number that is not negative, a half goes up. -/
theorem of_nonneg
    (hx : 0 ≤ x)
    (hlow : x - q < 1 / 2)
    (hhigh : -(1 / 2) ≤ x - q) :
    IsHalfUp x q := by
  constructor
  · exact abs_le.mpr ⟨hhigh, le_of_lt hlow⟩
  · intro h
    have hlt : x < q := by
      rcases abs_choice (x - q) with hsign | hsign <;> rw [hsign] at h <;> linarith
    rw [abs_of_nonneg hx]
    exact lt_of_lt_of_le hlt (le_abs_self _)

/-- A larger number is not rounded to a smaller integer. -/
theorem le_of_le
    (hp : IsHalfUp x p)
    (hq : IsHalfUp y q)
    (h : x ≤ y) :
    p ≤ q := by
  by_contra hlt
  have hstep : (q : ℚ) + 1 ≤ p := by
    exact_mod_cast Int.not_le.mp hlt
  have hx := abs_le.mp hp.near
  have hy := abs_le.mp hq.near
  -- Both numbers are half way between `q` and the next integer, which is `p`.
  have hxq : x = q + 1 / 2 := by linarith
  have hyq : y = q + 1 / 2 := by linarith
  have hpq : (p : ℚ) = q + 1 := by linarith
  have hup : |x| < |(p : ℚ)| := by
    refine hp.away ?_
    rw [hxq, hpq]
    norm_num
  have hdown : |x| < |(q : ℚ)| := by
    rw [hxq, ← hyq]
    refine hq.away ?_
    rw [hyq]
    norm_num
  -- One of the two integers is not farther from zero than the number between them.
  rcases le_or_gt 0 q with hsign | hsign
  · have hq0 : (0 : ℚ) ≤ q := by
      exact_mod_cast hsign
    rw [hxq, abs_of_nonneg hq0, abs_of_nonneg (by linarith)] at hdown
    linarith
  · have hq1 : (q : ℚ) + 1 ≤ 0 := by
      exact_mod_cast hsign
    rw [hxq, hpq, abs_of_nonpos hq1, abs_of_nonpos (by linarith)] at hup
    linarith

/-- No number is rounded to two integers. -/
theorem unique
    (hp : IsHalfUp x p)
    (hq : IsHalfUp x q) :
    p = q :=
  le_antisymm (hp.le_of_le hq le_rfl) (hq.le_of_le hp le_rfl)

/-- Rounded in units of a decimal place, a number is at most half a unit away. -/
theorem abs_div_sub_le
    {places : ℕ}
    (h : IsHalfUp (x * 10 ^ places) q) :
    |(q : ℚ) / 10 ^ places - x| ≤ 1 / (2 * 10 ^ places) := by
  have hpos : (0 : ℚ) < 10 ^ places := by
    positivity
  have herror : (q : ℚ) / 10 ^ places - x = -(x * 10 ^ places - q) / 10 ^ places := by
    field_simp
    ring
  rw [herror, abs_div, abs_neg, abs_of_pos hpos, ← div_div]
  exact div_le_div_of_nonneg_right h.near hpos.le

end IsHalfUp

/-- The rounded quotient of magnitudes is the quotient, rounded. -/
theorem isHalfUp_roundMagnitude
    (n : ℕ)
    {d : ℕ}
    (hd : 0 < d) :
    IsHalfUp ((n : ℚ) / d) (roundMagnitude n d : ℕ) := by
  have hpos : (0 : ℚ) < d :=
    Nat.cast_pos.mpr hd
  have hlow : 2 * (n : ℚ) < 2 * (roundMagnitude n d * d) + d := by
    exact_mod_cast lt_roundMagnitude n hd
  have hhigh : 2 * ((roundMagnitude n d : ℚ) * d) ≤ 2 * n + d := by
    exact_mod_cast roundMagnitude_le n d
  refine .of_nonneg (by positivity) ?_ ?_
  · rw [Int.cast_natCast, sub_lt_iff_lt_add, div_lt_iff₀ hpos]
    linarith
  · rw [Int.cast_natCast, neg_le_sub_iff_le_add, ← sub_le_iff_le_add, le_div_iff₀ hpos]
    linarith

/-- So is that of integers. -/
theorem isHalfUp_roundQuotient
    (n : ℤ)
    {d : ℤ}
    (hd : d ≠ 0) :
    IsHalfUp ((n : ℚ) / d) (roundQuotient n d) := by
  have hmagnitude := isHalfUp_roundMagnitude n.natAbs (Int.natAbs_pos.mpr hd)
  have habs : ((n.natAbs : ℕ) : ℚ) / ((d.natAbs : ℕ) : ℚ) = |(n : ℚ) / d| := by
    rw [abs_div, Nat.cast_natAbs, Nat.cast_natAbs, Int.cast_abs, Int.cast_abs]
  rw [habs] at hmagnitude
  unfold roundQuotient
  dsimp only
  -- The signs of the two parts are those of two numbers of `ℚ`.
  have hneg : ∀ m : ℤ, m < 0 → (m : ℚ) ≤ 0 :=
    fun m hm => Int.cast_nonpos.mpr (le_of_lt hm)
  have hnonneg : ∀ m : ℤ, ¬ m < 0 → (0 : ℚ) ≤ m :=
    fun m hm => Int.cast_nonneg (Int.not_lt.mp hm)
  by_cases hn : n < 0 <;> by_cases hd0 : d < 0
  · rw [abs_of_nonneg (div_nonneg_of_nonpos (hneg n hn) (hneg d hd0))] at hmagnitude
    simpa [hn, hd0] using hmagnitude
  · rw [abs_of_nonpos (div_nonpos_of_nonpos_of_nonneg (hneg n hn) (hnonneg d hd0))] at hmagnitude
    simpa [hn, hd0] using hmagnitude.neg
  · rw [abs_of_nonpos (div_nonpos_of_nonneg_of_nonpos (hnonneg n hn) (hneg d hd0))] at hmagnitude
    simpa [hn, hd0] using hmagnitude.neg
  · rw [abs_of_nonneg (div_nonneg (hnonneg n hn) (hnonneg d hd0))] at hmagnitude
    simpa [hn, hd0] using hmagnitude

/-- A number is a whole number of units of a decimal place. -/
def HasPlaces (x : ℚ) (places : ℕ) : Prop :=
  ∃ m : ℤ, x * 10 ^ places = m

namespace HasPlaces

variable {x y : ℚ} {m n : ℕ}

theorem intCast
    (q : ℤ)
    (n : ℕ) :
    HasPlaces q n :=
  ⟨q * 10 ^ n, by push_cast; ring⟩

/-- More places do no harm. -/
theorem mono
    (hx : HasPlaces x m)
    (h : m ≤ n) :
    HasPlaces x n := by
  obtain ⟨q, hq⟩ := hx
  obtain ⟨k, rfl⟩ := Nat.exists_eq_add_of_le h
  refine ⟨q * 10 ^ k, ?_⟩
  rw [pow_add, ← mul_assoc, hq]
  push_cast
  ring

theorem add
    (hx : HasPlaces x n)
    (hy : HasPlaces y n) :
    HasPlaces (x + y) n := by
  obtain ⟨q, hq⟩ := hx
  obtain ⟨r, hr⟩ := hy
  exact ⟨q + r, by rw [add_mul, hq, hr]; push_cast; ring⟩

theorem sub
    (hx : HasPlaces x n)
    (hy : HasPlaces y n) :
    HasPlaces (x - y) n := by
  obtain ⟨q, hq⟩ := hx
  obtain ⟨r, hr⟩ := hy
  exact ⟨q - r, by rw [sub_mul, hq, hr]; push_cast; ring⟩

/-- A product has the places of both factors. -/
theorem mul
    (hx : HasPlaces x m)
    (hy : HasPlaces y n) :
    HasPlaces (x * y) (m + n) := by
  obtain ⟨q, hq⟩ := hx
  obtain ⟨r, hr⟩ := hy
  exact ⟨q * r, by rw [pow_add, mul_mul_mul_comm, hq, hr]; push_cast; ring⟩

end HasPlaces

/-- In lowest terms, the denominator divides the power of ten of these places. -/
theorem den_dvd_pow_iff
    (x : ℚ)
    (places : ℕ) :
    x.den ∣ 10 ^ places ↔ HasPlaces x places := by
  constructor
  · rintro ⟨k, hk⟩
    refine ⟨x.num * k, ?_⟩
    have hpow : (10 : ℚ) ^ places = x.den * k := by
      exact_mod_cast hk
    rw [hpow, ← mul_assoc, Rat.mul_den_eq_num]
    push_cast
    rfl
  · rintro ⟨m, hm⟩
    have hx : x = Rat.divInt m (10 ^ places : ℤ) := by
      rw [Rat.divInt_eq_div, eq_div_iff (by positivity)]
      push_cast
      exact hm
    have hdvd := Rat.den_dvd m (10 ^ places : ℤ)
    rw [← hx] at hdvd
    exact_mod_cast hdvd

/-- An integer is the quotient of two integers in units of a decimal place, rounded half up: twice the
error is at most the divisor, and if it is just that, the integer lies beyond the quotient. -/
structure HalfUpQuotient (n d : ℤ) (places : ℕ) (q : ℤ) : Prop where
  near : 2 * |n * 10 ^ places - q * d| ≤ |d|
  away : 2 * |n * 10 ^ places - q * d| = |d| → |n| * 10 ^ places < |q| * |d|

/-- This is the rounding of the quotient in these units. -/
theorem halfUpQuotient_iff
    (n : ℤ)
    {d : ℤ}
    (hd : d ≠ 0)
    (places : ℕ)
    (q : ℤ) :
    HalfUpQuotient n d places q ↔ IsHalfUp ((n : ℚ) / d * 10 ^ places) q := by
  have hpos : (0 : ℚ) < |(d : ℚ)| :=
    abs_pos.mpr (Int.cast_ne_zero.mpr hd)
  have hscaled : (n : ℚ) / d * 10 ^ places = n * 10 ^ places / d := by
    rw [div_mul_eq_mul_div]
  have herror : (n : ℚ) / d * 10 ^ places - q = (n * 10 ^ places - q * d) / d := by
    rw [hscaled, sub_div, mul_div_cancel_right₀ _ (Int.cast_ne_zero.mpr hd)]
  have hnear :
      2 * |n * 10 ^ places - q * d| ≤ |d| ↔ |(n : ℚ) / d * 10 ^ places - q| ≤ 1 / 2 := by
    rw [herror, abs_div, div_le_div_iff₀ hpos two_pos, one_mul, mul_comm]
    exact_mod_cast Iff.rfl
  have htie :
      2 * |n * 10 ^ places - q * d| = |d| ↔ |(n : ℚ) / d * 10 ^ places - q| = 1 / 2 := by
    rw [herror, abs_div, div_eq_div_iff hpos.ne' two_ne_zero, one_mul, mul_comm]
    exact_mod_cast Iff.rfl
  have haway :
      |n| * 10 ^ places < |q| * |d| ↔ |(n : ℚ) / d * 10 ^ places| < |(q : ℚ)| := by
    rw [hscaled, abs_div, div_lt_iff₀ hpos, abs_mul, abs_pow, abs_of_pos (by norm_num : (0 : ℚ) < 10)]
    exact_mod_cast Iff.rfl
  constructor
  · rintro ⟨h, ha⟩
    exact ⟨hnear.mp h, fun ht => haway.mp (ha (htie.mpr ht))⟩
  · rintro ⟨h, ha⟩
    exact ⟨hnear.mpr h, fun ht => haway.mpr (ha (htie.mp ht))⟩

namespace Decimal

section Units

variable (q : ℤ) (places : ℕ)

@[simp] theorem signed_ofUnits :
    (ofUnits q places).signed = q := by
  simp only [signed, ofUnits, decide_eq_true_eq]
  split_ifs <;> omega

@[simp] theorem exponent_ofUnits :
    (ofUnits q places).exponent = -(places : ℤ) := by
  rfl

theorem toRat_ofUnits :
    (ofUnits q places).toRat = q / 10 ^ places := by
  rw [toRat, signed_ofUnits, exponent_ofUnits, zpow_neg, zpow_natCast, div_eq_mul_inv]

end Units

section HalfUp

variable {n d n' d' : ℤ}

/-- The coefficient of a quotient is the quotient in units of its last place, rounded. -/
theorem isHalfUp_signed
    (n : ℤ)
    (hd : d ≠ 0)
    (places : ℕ) :
    IsHalfUp ((n : ℚ) / d * 10 ^ places) (halfUp n d places).signed := by
  have hrounded := isHalfUp_roundQuotient (n * tenPow places) hd
  rw [halfUp, signed_ofUnits, div_mul_eq_mul_div]
  simpa using hrounded

/-- A quotient is the decimal of its coefficient in these units. -/
theorem halfUp_eq_ofUnits
    (n d : ℤ)
    (places : ℕ) :
    halfUp n d places = ofUnits (halfUp n d places).signed places := by
  rw [halfUp, signed_ofUnits]

/-- Quotients of one number are one decimal. -/
theorem halfUp_congr
    (hd : d ≠ 0)
    (hd' : d' ≠ 0)
    (h : (n' : ℚ) / d' = n / d)
    (places : ℕ) :
    halfUp n' d' places = halfUp n d places := by
  have hrounded := isHalfUp_signed n' hd' places
  rw [h] at hrounded
  rw [halfUp_eq_ofUnits n' d', hrounded.unique (isHalfUp_signed n hd places), ← halfUp_eq_ofUnits]

/-- A quotient is not below that of a smaller number. -/
theorem halfUp_mono
    (hd : d ≠ 0)
    (hd' : d' ≠ 0)
    (h : (n : ℚ) / d ≤ n' / d')
    (places : ℕ) :
    (halfUp n d places).toRat ≤ (halfUp n' d' places).toRat := by
  have hpos : (0 : ℚ) < 10 ^ places := by
    positivity
  have hscaled : (n : ℚ) / d * 10 ^ places ≤ n' / d' * 10 ^ places :=
    mul_le_mul_of_nonneg_right h hpos.le
  have hsigned :=
    (isHalfUp_signed n hd places).le_of_le (isHalfUp_signed n' hd' places) hscaled
  rw [halfUp_eq_ofUnits n d, halfUp_eq_ofUnits n' d', toRat_ofUnits, toRat_ofUnits]
  exact div_le_div_of_nonneg_right (Int.cast_le.mpr hsigned) hpos.le

/-- The quotient of the opposite number is the opposite. -/
theorem toRat_halfUp_neg
    (n : ℤ)
    (hd : d ≠ 0)
    (places : ℕ) :
    (halfUp (-n) d places).toRat = -(halfUp n d places).toRat := by
  have hrounded := isHalfUp_signed (-n) hd places
  have hopposite : ((-n : ℤ) : ℚ) / d * 10 ^ places = -(n / d * 10 ^ places) := by
    push_cast
    ring
  rw [hopposite] at hrounded
  rw [halfUp_eq_ofUnits (-n), hrounded.unique (isHalfUp_signed n hd places).neg,
    halfUp_eq_ofUnits n, toRat_ofUnits, toRat_ofUnits, signed_ofUnits]
  push_cast
  ring

/-- A quotient is at most half a unit of its last place away from the number. -/
theorem abs_toRat_halfUp_sub_le
    (n : ℤ)
    (hd : d ≠ 0)
    (places : ℕ) :
    |(halfUp n d places).toRat - n / d| ≤ 1 / (2 * 10 ^ places) := by
  have hrounded := isHalfUp_signed n hd places
  rw [halfUp_eq_ofUnits, toRat_ofUnits]
  exact hrounded.abs_div_sub_le

/-- A quotient that has no more places is exact. -/
theorem toRat_halfUp_of_hasPlaces
    (hd : d ≠ 0)
    {places : ℕ}
    (h : HasPlaces ((n : ℚ) / d) places) :
    (halfUp n d places).toRat = n / d := by
  obtain ⟨q, hq⟩ := h
  have hpos : (0 : ℚ) < 10 ^ places := by
    positivity
  have hrounded := isHalfUp_signed n hd places
  rw [hq] at hrounded
  rw [halfUp_eq_ofUnits, hrounded.unique (.intCast q), toRat_ofUnits, ← hq,
    mul_div_cancel_right₀ _ hpos.ne']

/-- So it is where the divisor divides the dividend in units of the last place. -/
theorem toRat_halfUp_of_dvd
    (hd : d ≠ 0)
    {places : ℕ}
    (h : d ∣ n * 10 ^ places) :
    (halfUp n d places).toRat = n / d := by
  obtain ⟨q, hq⟩ := h
  refine toRat_halfUp_of_hasPlaces hd ⟨q, ?_⟩
  rw [div_mul_eq_mul_div, div_eq_iff (Int.cast_ne_zero.mpr hd), mul_comm (q : ℚ)]
  exact_mod_cast hq

end HalfUp

/-- The decimal of some places nearest to a number, halves going away from zero. -/
def ofRat (r : ℚ) (places : ℕ) : Decimal := halfUp r.num r.den places

section OfRat

variable (r : ℚ) (places : ℕ)

theorem den_intCast_ne_zero :
    (r.den : ℤ) ≠ 0 :=
  Int.natCast_ne_zero.mpr r.den_ne_zero

theorem num_div_den :
    (r.num : ℚ) / ((r.den : ℤ) : ℚ) = r := by
  rw [Int.cast_natCast, Rat.num_div_den]

/-- A quotient of integers is rounded as its number. -/
theorem halfUp_eq_ofRat
    (n : ℤ)
    {d : ℤ}
    (hd : d ≠ 0) :
    halfUp n d places = ofRat ((n : ℚ) / d) places :=
  halfUp_congr (den_intCast_ne_zero _) hd (num_div_den _).symm places

@[simp] theorem exponent_ofRat :
    (ofRat r places).exponent = -(places : ℤ) := by
  rfl

/-- The coefficient is the number in units of the last place, rounded. -/
theorem isHalfUp_ofRat :
    IsHalfUp (r * 10 ^ places) (ofRat r places).signed := by
  have hrounded := isHalfUp_signed r.num (den_intCast_ne_zero r) places
  rwa [num_div_den] at hrounded

/-- The number is kept up to half a unit of the last place. -/
theorem abs_toRat_ofRat_sub_le :
    |(ofRat r places).toRat - r| ≤ 1 / (2 * 10 ^ places) := by
  have herror := abs_toRat_halfUp_sub_le r.num (den_intCast_ne_zero r) places
  rwa [num_div_den] at herror

/-- It is kept at all if it has no more places. -/
theorem toRat_ofRat_of_hasPlaces
    {r : ℚ}
    {places : ℕ}
    (h : HasPlaces r places) :
    (ofRat r places).toRat = r := by
  rw [← num_div_den r] at h
  rw [ofRat, toRat_halfUp_of_hasPlaces (den_intCast_ne_zero r) h, num_div_den]

end OfRat

/-- The quotient of two integers as a decimal of some places is correctly rounded, halves going away from
zero, and no zero is negative.  So it is determined by the number of the quotient, the opposite number
has the opposite quotient, a larger one has none that is smaller, and one that has no more places is
exact. -/
theorem divideIntegers_halfUp
    (n : ℤ)
    {d : ℤ}
    (hd : d ≠ 0)
    (places : ℕ) :
    ∃ x : Decimal,
      divideIntegers n d places = .ok x ∧
      x.exponent = -(places : ℤ) ∧
      HalfUpQuotient n d places x.signed ∧
      (∀ q : ℤ, HalfUpQuotient n d places q → q = x.signed) ∧
      (x.signed = 0 → x.negative = false) ∧
      (∀ n' d' : ℤ, d' ≠ 0 → (n' : ℚ) / d' = n / d → divideIntegers n' d' places = .ok x) ∧
      (∃ y : Decimal, divideIntegers (-n) d places = .ok y ∧ y.toRat = -x.toRat) ∧
      (d ∣ n * 10 ^ places → x.toRat = n / d) ∧
      ∀ n' d' : ℤ, d' ≠ 0 → (n : ℚ) / d ≤ n' / d' →
        ∃ y : Decimal, divideIntegers n' d' places = .ok y ∧ x.toRat ≤ y.toRat := by
  have hdivide :
      ∀ n' d' : ℤ, d' ≠ 0 → divideIntegers n' d' places = .ok (halfUp n' d' places) :=
    fun n' d' hd' => divideIntegers_of_checks n' hd' (Int.natCast_nonneg places)
  have hrounded := isHalfUp_signed n hd places
  refine ⟨halfUp n d places, hdivide n d hd, rfl, ?_, ?_, ?_, ?_, ?_, ?_, ?_⟩
  · exact (halfUpQuotient_iff n hd places _).mpr hrounded
  · intro q hq
    exact ((halfUpQuotient_iff n hd places q).mp hq).unique hrounded
  · intro hzero
    rw [halfUp_eq_ofUnits, hzero]
    rfl
  · intro n' d' hd' h
    rw [hdivide n' d' hd', halfUp_congr hd hd' h]
  · exact ⟨_, hdivide (-n) d hd, toRat_halfUp_neg n hd places⟩
  · exact toRat_halfUp_of_dvd hd
  · intro n' d' hd' h
    exact ⟨_, hdivide n' d' hd', halfUp_mono hd hd' h places⟩

/-- A half below zero: minus an eighth to two places is the one farther from zero, however it is
written. -/
theorem divideIntegers_halfUp_below_zero :
    HalfUpQuotient 7 (-56) 2 (-13) ∧
    divideIntegers 7 (-56) 2 = .ok ⟨true, 13, -2⟩ ∧
    divideIntegers (-1) 8 2 = .ok ⟨true, 13, -2⟩ := by
  have hvalue : divideIntegers 7 (-56) 2 = .ok ⟨true, 13, -2⟩ := by
    rfl
  obtain ⟨x, hx, -, hrounded, -, -, hsame, -⟩ :=
    divideIntegers_halfUp 7 (by norm_num : (-56 : ℤ) ≠ 0) 2
  cases Except.ok.inj (hvalue.symm.trans hx)
  exact ⟨hrounded, hvalue, hsame (-1) 8 (by norm_num) (by norm_num)⟩

end Decimal

end Reckoner
