import Reckoner.Number.Rational
import Mathlib.Data.Rat.Lemmas
import Mathlib.Algebra.Order.Ring.Rat
import Mathlib.Tactic.FieldSimp
import Mathlib.Tactic.LinearCombination

/-!
# The numbers of rationals

A `Rational` stands for a number of `ℚ`, and its parts are the numerator and the denominator of that
number.  Each operation takes the numbers of its operands, computes on them without a bound, and
looks at the range of the reduced result only.

**Results.**
* `ofParts_eq_ofRat`: building a rational from two integers.
* `add_eq_ofRat`, `subtract_eq_ofRat`, `multiply_eq_ofRat`, `divide_eq_ofRat`: the operations.
* `divide_divisionByZero_iff`: a division by zero has a divisor of zero.
-/

namespace Reckoner

@[simp] theorem cast_tenPow
    (n : Nat) :
    (tenPow n : ℚ) = 10 ^ n := by
  simp [tenPow]

namespace Rational

/-- The number of a rational. -/
def toRat (q : Rational) : ℚ :=
  ⟨q.num, q.den, q.den_pos.ne', q.reduced⟩

@[simp] theorem num_toRat
    (q : Rational) :
    q.toRat.num = q.num := by
  rfl

@[simp] theorem den_toRat
    (q : Rational) :
    q.toRat.den = q.den := by
  rfl

theorem toRat_eq_div
    (q : Rational) :
    q.toRat = (q.num : ℚ) / q.den :=
  (Rat.num_div_den q.toRat).symm

theorem den_ne_zero
    (q : Rational) :
    (q.den : ℚ) ≠ 0 :=
  Nat.cast_ne_zero.mpr q.den_pos.ne'

theorem toRat_eq_zero_iff
    (q : Rational) :
    q.toRat = 0 ↔ q.num = 0 := by
  rw [← Rat.num_eq_zero, num_toRat]

theorem isZero_iff
    (q : Rational) :
    q.isZero = true ↔ q.toRat = 0 := by
  rw [toRat_eq_zero_iff, isZero, beq_iff_eq]

section Reduced

/-- The reduced parts are in the proportion of the given ones. -/
theorem reducedNum_mul
    (n d : Int) :
    reducedNum n d * d = n * reducedDen n d := by
  obtain ⟨a, hn⟩ : Int.gcd n d ∣ n.natAbs := Nat.gcd_dvd_left _ _
  obtain ⟨b, hd⟩ : Int.gcd n d ∣ d.natAbs := Nat.gcd_dvd_right _ _
  by_cases hg : Int.gcd n d = 0
  · obtain ⟨rfl, rfl⟩ := Int.gcd_eq_zero_iff.mp hg
    rfl
  · have hpos : 0 < Int.gcd n d := Nat.pos_of_ne_zero hg
    have ha : n.natAbs / Int.gcd n d = a := Nat.div_eq_of_eq_mul_right hpos hn
    have hb : d.natAbs / Int.gcd n d = b := Nat.div_eq_of_eq_mul_right hpos hd
    simp only [reducedNum, reducedDen, ha, hb]
    -- The sign of the reduced numerator depends on the signs of both parts.
    rcases lt_or_ge n 0 with hn0 | hn0 <;> rcases lt_or_ge d 0 with hd0 | hd0
    · have hn' : n = -(Int.gcd n d * a) := by omega
      have hd' : d = -(Int.gcd n d * b) := by omega
      rw [if_pos (by simp [hn0, hd0])]
      linear_combination (a : ℤ) * hd' - (b : ℤ) * hn'
    · have hn' : n = -(Int.gcd n d * a) := by omega
      have hd' : d = Int.gcd n d * b := by omega
      rw [if_neg (by simp [hn0, hd0])]
      linear_combination -(a : ℤ) * hd' - (b : ℤ) * hn'
    · have hn' : n = Int.gcd n d * a := by omega
      have hd' : d = -(Int.gcd n d * b) := by omega
      rw [if_neg (by simp [hn0, hd0])]
      linear_combination -(a : ℤ) * hd' - (b : ℤ) * hn'
    · have hn' : n = Int.gcd n d * a := by omega
      have hd' : d = Int.gcd n d * b := by omega
      rw [if_pos (by simp [hn0.not_gt, hd0.not_gt])]
      linear_combination (a : ℤ) * hd' - (b : ℤ) * hn'

variable {n d : Int}

theorem div_eq_reduced
    (hd : d ≠ 0) :
    (n : ℚ) / d = (reducedNum n d : ℚ) / ((reducedDen n d : ℤ) : ℚ) := by
  have hden : ((reducedDen n d : ℤ) : ℚ) ≠ 0 :=
    Int.cast_ne_zero.mpr (Int.natCast_ne_zero.mpr (reducedDen_pos hd).ne')
  rw [div_eq_div_iff (Int.cast_ne_zero.mpr hd) hden]
  exact_mod_cast (reducedNum_mul n d).symm

/-- The reduced numerator is the numerator of the quotient. -/
theorem num_div_eq_reducedNum
    (hd : d ≠ 0) :
    ((n : ℚ) / d).num = reducedNum n d := by
  rw [div_eq_reduced hd]
  exact Rat.num_div_eq_of_coprime (Int.natCast_pos.mpr (reducedDen_pos hd)) (coprime_reduced hd)

/-- The reduced denominator is the denominator of the quotient. -/
theorem den_div_eq_reducedDen
    (hd : d ≠ 0) :
    ((n : ℚ) / d).den = reducedDen n d := by
  have hden :=
    Rat.den_div_eq_of_coprime (Int.natCast_pos.mpr (reducedDen_pos hd)) (coprime_reduced (n := n) hd)
  rw [div_eq_reduced hd]
  exact_mod_cast hden

end Reduced

/-- The rational of a number, unless its parts do not fit. -/
def ofRat (x : ℚ) : Except Failure Rational :=
  if h : FitsWords x.num x.den then
    .ok ⟨x.num, x.den, x.den_pos, x.reduced, h⟩
  else
    .error (Failure.fractionRange x.num x.den).worded

/-- A number that fits has its rational. -/
theorem ofRat_of_fits
    {x : ℚ}
    (h : FitsWords x.num x.den) :
    ∃ q : Rational, ofRat x = .ok q ∧ q.toRat = x :=
  ⟨_, dif_pos h, rfl⟩

/-- Any other number is refused for its range. -/
theorem ofRat_of_not_fits
    {x : ℚ}
    (h : ¬ FitsWords x.num x.den) :
    ofRat x = .error (Failure.fractionRange x.num x.den).worded :=
  dif_neg h

/-- The range is the only reason to refuse a number. -/
theorem ofRat_eq_error_iff_range
    {x : ℚ}
    {f : Failure} :
    ofRat x = .error f ↔
      ¬ FitsWords x.num x.den ∧ f = (Failure.fractionRange x.num x.den).worded := by
  constructor
  · intro h
    by_cases hfits : FitsWords x.num x.den
    · obtain ⟨q, hq, -⟩ := ofRat_of_fits hfits
      cases h.symm.trans hq
    · exact ⟨hfits, Except.error.inj (h.symm.trans (ofRat_of_not_fits hfits))⟩
  · rintro ⟨hfits, rfl⟩
    exact ofRat_of_not_fits hfits

/-- The rational of two integers is the rational of their quotient. -/
theorem ofParts_eq_ofRat
    (n : Int)
    {d : Int}
    (hd : d ≠ 0) :
    ofParts n d = ofRat ((n : ℚ) / d) := by
  simp only [ofParts, ofRat, dif_neg hd, num_div_eq_reducedNum hd, den_div_eq_reducedDen hd]

section Operations

variable (a b : Rational)

theorem den_mul_den_ne_zero :
    ((a.den * b.den : Nat) : Int) ≠ 0 :=
  Int.natCast_ne_zero.mpr (Nat.mul_pos a.den_pos b.den_pos).ne'

/-- The sum of two numbers over the product of their denominators. -/
theorem toRat_add_toRat :
    a.toRat + b.toRat =
      ((a.num * b.den + b.num * a.den : Int) : ℚ) / ((a.den * b.den : Nat) : Int) := by
  have ha := a.den_ne_zero
  have hb := b.den_ne_zero
  rw [toRat_eq_div, toRat_eq_div]
  push_cast
  field_simp

/-- Their difference. -/
theorem toRat_sub_toRat :
    a.toRat - b.toRat =
      ((a.num * b.den - b.num * a.den : Int) : ℚ) / ((a.den * b.den : Nat) : Int) := by
  have ha := a.den_ne_zero
  have hb := b.den_ne_zero
  rw [toRat_eq_div, toRat_eq_div]
  push_cast
  field_simp

/-- Their product. -/
theorem toRat_mul_toRat :
    a.toRat * b.toRat = ((a.num * b.num : Int) : ℚ) / ((a.den * b.den : Nat) : Int) := by
  rw [toRat_eq_div, toRat_eq_div]
  push_cast
  rw [div_mul_div_comm]

/-- Their quotient, also by zero. -/
theorem toRat_div_toRat :
    a.toRat / b.toRat = ((a.num * b.den : Int) : ℚ) / ((a.den * b.num : Int) : ℚ) := by
  rw [toRat_eq_div, toRat_eq_div]
  push_cast
  rw [div_div_div_eq]

/-- The sum is that of the numbers. -/
theorem add_eq_ofRat :
    a.add b = ofRat (a.toRat + b.toRat) := by
  rw [add, ofParts_eq_ofRat _ (den_mul_den_ne_zero a b), toRat_add_toRat]

/-- The difference is that of the numbers. -/
theorem subtract_eq_ofRat :
    a.subtract b = ofRat (a.toRat - b.toRat) := by
  rw [subtract, ofParts_eq_ofRat _ (den_mul_den_ne_zero a b), toRat_sub_toRat]

/-- The product is that of the numbers. -/
theorem multiply_eq_ofRat :
    a.multiply b = ofRat (a.toRat * b.toRat) := by
  rw [multiply, ofParts_eq_ofRat _ (den_mul_den_ne_zero a b), toRat_mul_toRat]

/-- The quotient is that of the numbers, unless the divisor is zero. -/
theorem divide_eq_ofRat :
    a.divide b =
      if b.toRat = 0 then .error (.zeroDivisor (some a.text))
      else ofRat (a.toRat / b.toRat) := by
  by_cases hb : b.toRat = 0
  · simp [divide, hb, (isZero_iff b).mpr hb]
  · have hzero : ¬ b.isZero = true :=
      mt (isZero_iff b).mp hb
    have hnum : b.num ≠ 0 :=
      mt (toRat_eq_zero_iff b).mpr hb
    have hden : (a.den : Int) * b.num ≠ 0 :=
      mul_ne_zero (Int.natCast_ne_zero.mpr a.den_pos.ne') hnum
    rw [divide, if_neg hzero, if_neg hb, ofParts_eq_ofRat _ hden, toRat_div_toRat]

/-- A quotient of rationals fails as a division by zero where the divisor is zero. -/
theorem divide_divisionByZero_iff :
    (∃ f : Failure, a.divide b = .error f ∧ f.kind = .divisionByZero) ↔ b.toRat = 0 := by
  rw [divide_eq_ofRat]
  constructor
  · rintro ⟨f, hf, hkind⟩
    by_contra hb
    rw [if_neg hb, ofRat_eq_error_iff_range] at hf
    rcases (Failure.fractionRange _ _).worded_cases with hworded | hworded <;>
      rw [hf.2, hworded] at hkind <;> cases hkind
  · intro hb
    exact ⟨_, if_pos hb, rfl⟩

end Operations

end Rational
end Reckoner
