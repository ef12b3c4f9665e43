import Reckoner.Proofs.Number.DecimalArithmetic
import Reckoner.Proofs.Number.DecimalText

/-!
# Quotients of decimals

A quotient of decimals is computed from the numerators and the denominators of both, and rounded once.
What comes out is the number of the quotient, rounded half up to the scale or to the places of the
dividend, whichever are more.  The forms of the two decimals, their exponents and their final zeros, do
not matter but for the places of the dividend, and as these are kept, nothing is lost in a division by
one.

**Results.**
* `Decimal.divide_eq_ofRat`: the quotient of decimals is the number of the quotient, rounded.
* `Decimal.hasPlaces`: the places of a decimal.
* `Value.divide_halfUp`: the quotient of two approximate values.
-/

namespace Reckoner

namespace Decimal

section Quotient

variable {x y : Decimal}

/-- A decimal is the quotient of its numerator and its denominator. -/
theorem toRat_eq_num_div_den
    (d : Decimal) :
    d.toRat = (d.num : ℚ) / ((d.den : ℤ) : ℚ) := by
  rw [toRat_eq_div, num, den, places]
  push_cast
  rw [cast_tenPow, cast_tenPow]

/-- A quotient of decimals is the quotient of their numbers, rounded to the scale or to the places of the
dividend. -/
theorem divide_eq_ofRat
    (scale : ℕ)
    (hy : y.toRat ≠ 0) :
    divide scale x y = .ok (ofRat (x.toRat / y.toRat) (max scale x.places)) := by
  have hzero : ¬ y.isZero = true :=
    mt (isZero_iff y).mp hy
  have hden : (x.den : ℤ) * y.num ≠ 0 :=
    mul_ne_zero (Int.natCast_ne_zero.mpr x.den_pos.ne') (num_ne_zero (Bool.eq_false_iff.mpr hzero))
  have hnumber :
      ((x.num * y.den : ℤ) : ℚ) / ((x.den * y.num : ℤ) : ℚ) = x.toRat / y.toRat := by
    rw [toRat_eq_num_div_den x, toRat_eq_num_div_den y, div_div_div_eq]
    push_cast
    rfl
  rw [divide, if_neg hzero, halfUp_eq_ofRat _ _ hden, hnumber]

/-- A decimal has its places, and any more. -/
theorem hasPlaces
    {n : ℕ}
    (h : x.places ≤ n) :
    HasPlaces x.toRat n := by
  refine ⟨x.unitsAt (-(n : ℤ)), ?_⟩
  have hunits := x.unitsAt_mul (e := -(n : ℤ)) (by unfold places at h; omega)
  rw [← hunits, zpow_neg, zpow_natCast, inv_mul_cancel_right₀ (by positivity)]

end Quotient

end Decimal

namespace Value

section Divide

variable {a b : Value} {x y : Decimal}

/-- An approximate value is divided by any number that is not zero as a decimal. -/
theorem divide_of_approximate
    (ha : a.number = .approximate x)
    (hb : b.number.toDecimal (max a.scale b.scale) = y)
    (hy : y.toRat ≠ 0) :
    a.divide b =
      .ok
        ⟨.approximate (Decimal.ofRat (x.toRat / y.toRat) (max (max a.scale b.scale) x.places)),
          max a.scale b.scale, le_trans a.scale_pos (le_max_left _ _)⟩ := by
  have hx : a.number.toDecimal (max a.scale b.scale) = x := by
    rw [ha, Number.toDecimal_approximate]
  rw [divide, apply_of_approximate _ (.inl (by rw [ha]; rfl))]
  dsimp only
  rw [hx, hb, Decimal.divide_eq_ofRat _ hy]
  rfl

/-- One, exact or approximate, is one as a decimal. -/
theorem toRat_toDecimal_of_one
    (h : b.number.toRat = 1)
    (scale : ℕ) :
    (b.number.toDecimal scale).toRat = 1 := by
  have hplaces : HasPlaces b.number.toRat scale := by
    rw [h]
    exact_mod_cast HasPlaces.intCast 1 scale
  rw [Number.toRat_toDecimal fun _ => hplaces, h]

/-- A division by one loses nothing, since all places of the dividend are kept. -/
theorem divide_one
    (ha : a.number = .approximate x)
    (hb : b.number.toRat = 1) :
    ∃ (v : Value) (d : Decimal),
      a.divide b = .ok v ∧ v.number = .approximate d ∧ d.toRat = x.toRat := by
  have hone := toRat_toDecimal_of_one hb (max a.scale b.scale)
  have hvalue := divide_of_approximate ha rfl (by rw [hone]; exact one_ne_zero)
  rw [hone, div_one] at hvalue
  exact ⟨_, _, hvalue, rfl, Decimal.toRat_ofRat_of_hasPlaces (Decimal.hasPlaces (le_max_right _ _))⟩

/-- A quotient of approximate values has as many places as the larger scale, or as the dividend has if
these are more, and its coefficient is the quotient of the numbers in units of the last place, rounded
once, halves going away from zero.  So it is at most half such a unit away from the quotient, and of the
divisor only the number matters.  A number divided by itself is one, and a division by one loses
nothing. -/
theorem divide_halfUp
    (ha : a.number = .approximate x)
    (hb : b.number = .approximate y)
    (hy : y.toRat ≠ 0) :
    ∃ (v : Value) (d : Decimal) (places : ℕ),
      a.divide b = .ok v ∧
      v.scale = max a.scale b.scale ∧
      v.number = .approximate d ∧
      (places : ℤ) = max (max ((max a.scale b.scale : ℕ) : ℤ) (-x.exponent)) 0 ∧
      d.exponent = -(places : ℤ) ∧
      (∀ q : ℤ, IsHalfUp (x.toRat / y.toRat * 10 ^ places) q ↔ q = d.signed) ∧
      |d.toRat - x.toRat / y.toRat| ≤ 1 / (2 * 10 ^ places) ∧
      (∀ (c : Value) (z : Decimal),
        c.number = .approximate z →
        z.toRat = y.toRat →
        max a.scale c.scale = max a.scale b.scale →
        a.divide c = .ok v) ∧
      (x.toRat = y.toRat → d.toRat = 1) ∧
      ∀ c : Value,
        c.number.toRat = 1 →
        ∃ (w : Value) (e : Decimal),
          a.divide c = .ok w ∧ w.number = .approximate e ∧ e.toRat = x.toRat := by
  have hquotient :
      ∀ (c : Value) (z : Decimal),
        c.number = .approximate z →
        z.toRat = y.toRat →
        a.divide c =
          .ok
            ⟨.approximate (Decimal.ofRat (x.toRat / y.toRat) (max (max a.scale c.scale) x.places)),
              max a.scale c.scale, le_trans a.scale_pos (le_max_left _ _)⟩ := by
    intro c z hc hz
    rw [← hz] at hy ⊢
    exact divide_of_approximate ha (by rw [hc, Number.toDecimal_approximate]) hy
  refine ⟨_, _, max (max a.scale b.scale) x.places, hquotient b y hb rfl, rfl, rfl, ?count,
    Decimal.exponent_ofRat _ _, ?rounded, Decimal.abs_toRat_ofRat_sub_le _ _, ?number, ?self, ?one⟩
  case count =>
    simp only [Decimal.places]
    omega
  case rounded =>
    intro q
    have hrounded := Decimal.isHalfUp_ofRat (x.toRat / y.toRat) (max (max a.scale b.scale) x.places)
    constructor
    · exact fun hq => hq.unique hrounded
    · rintro rfl
      exact hrounded
  case number =>
    intro c z hc hz hscale
    simpa only [hscale] using hquotient c z hc hz
  case self =>
    intro hself
    rw [hself, div_self hy]
    exact Decimal.toRat_ofRat_of_hasPlaces (by exact_mod_cast HasPlaces.intCast 1 _)
  case one =>
    exact fun c hc => divide_one ha hc

/-- A half below zero, by a ten with a positive exponent and by a ten with two places: the quotient has
the three places of the dividend, and is the one farther from zero. -/
theorem divide_halfUp_below_zero :
    divide ⟨.approximate ⟨true, 125, -3⟩, 1, by decide⟩ ⟨.approximate ⟨false, 1, 1⟩, 2, by decide⟩ =
      .ok ⟨.approximate ⟨true, 13, -3⟩, 2, by decide⟩ ∧
    divide ⟨.approximate ⟨true, 125, -3⟩, 1, by decide⟩ ⟨.approximate ⟨false, 1000, -2⟩, 2, by decide⟩ =
      .ok ⟨.approximate ⟨true, 13, -3⟩, 2, by decide⟩ ∧
    IsHalfUp (Decimal.toRat ⟨true, 125, -3⟩ / Decimal.toRat ⟨false, 1, 1⟩ * 10 ^ 3) (-13) := by
  have hvalue :
      divide ⟨.approximate ⟨true, 125, -3⟩, 1, by decide⟩ ⟨.approximate ⟨false, 1, 1⟩, 2, by decide⟩ =
        .ok ⟨.approximate ⟨true, 13, -3⟩, 2, by decide⟩ := by
    decide +kernel
  obtain ⟨v, d, places, hv, -, hd, hplaces, -, hrounded, -, hsame, -⟩ :=
    divide_halfUp (a := ⟨.approximate ⟨true, 125, -3⟩, 1, by decide⟩)
      (b := ⟨.approximate ⟨false, 1, 1⟩, 2, by decide⟩) rfl rfl (by decide +kernel)
  cases hvalue.symm.trans hv
  cases hd
  have hthree : places = 3 :=
    Int.natCast_inj.mp (hplaces.trans (by decide))
  subst hthree
  exact ⟨hvalue, hsame _ _ rfl (by decide +kernel) rfl, (hrounded (-13)).mpr rfl⟩

end Divide

end Value

end Reckoner
