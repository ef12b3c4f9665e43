import Reckoner.Proofs.Number.DecimalValue

/-!
# Arithmetic with every check made

Values carry proofs of their own well-formedness, so the operations on them need not look whether a
scale is in range or a denominator is zero.  Here the same operations make each of these checks at
the place where it could fail: where a rational is rounded, where two integers are divided, and
where a number becomes a value with a scale.

**Results.**
* `divideChecked_eq_divide`: the quotient of decimals never meets the checks of the quotient of
  integers.
* `applyChecked_eq_apply`: an operation on values meets none of the checks, if its reading on decimals
  meets none.
-/

namespace Reckoner

namespace Decimal

/-- The quotient of decimals through the checked quotient of integers. -/
def divideChecked (scale : Int) (a b : Decimal) : Except Failure Decimal :=
  if b.isZero then .error (.zeroDivisor (some a.text))
  else divideIntegers (a.num * b.den) (a.den * b.num) (max (max scale (-a.exponent)) 0)

theorem den_pos
    (d : Decimal) :
    0 < d.den :=
  tenPow_pos _

/-- The numerator of a decimal that is not zero is not zero. -/
theorem num_ne_zero
    {d : Decimal}
    (h : d.isZero = false) :
    d.num ≠ 0 := by
  have hsigned : d.signed ≠ 0 := by
    rw [ne_eq, signed_eq_zero_iff]
    simpa [isZero] using h
  exact mul_ne_zero hsigned (tenPow_ne_zero _)

/-- A quotient of integers passes its checks with a divisor that is not zero and a scale that is not
negative. -/
theorem divideIntegers_of_checks
    (n : Int)
    {d scale : Int}
    (hd : d ≠ 0)
    (hscale : 0 ≤ scale) :
    divideIntegers n d scale = .ok (halfUp n d scale.toNat) := by
  rw [divideIntegers, if_neg hd, if_neg (Int.not_lt.mpr hscale)]

/-- The quotient of decimals never meets these checks. -/
theorem divideChecked_eq_divide
    (scale : Nat)
    (a b : Decimal) :
    divideChecked scale a b = divide scale a b := by
  unfold divideChecked divide
  by_cases hb : b.isZero = true
  · rw [if_pos hb, if_pos hb]
  · rw [if_neg hb, if_neg hb]
    have hnum : b.num ≠ 0 :=
      num_ne_zero (Bool.eq_false_iff.mpr hb)
    have hden : (a.den : Int) * b.num ≠ 0 :=
      mul_ne_zero (Int.natCast_ne_zero.mpr a.den_pos.ne') hnum
    have hplaces :
        (max (max (scale : Int) (-a.exponent)) 0).toNat = max scale a.places := by
      unfold places
      omega
    rw [divideIntegers_of_checks _ hden (le_max_right _ _), hplaces]

end Decimal

namespace Value

/-- A conversion at a scale that is not negative passes its checks. -/
theorem toDecimal_of_scale
    (v : Value)
    (scale : Nat) :
    v.toDecimal (some (scale : Int)) = .ok (v.number.toDecimal scale) := by
  obtain ⟨number, s, hs⟩ := v
  cases number with
  | exact q =>
      have hden : (q.den : Int) ≠ 0 :=
        Int.natCast_ne_zero.mpr q.den_pos.ne'
      exact Decimal.divideIntegers_of_checks q.num hden (Int.natCast_nonneg scale)
  | approximate d =>
      rfl

/-- A number with a scale of at least one passes the check of the scale. -/
theorem ofNumber_of_pos
    (number : Number)
    {scale : Nat}
    (pos : 1 ≤ scale) :
    ofNumber number (scale : Int) = .ok ⟨number, scale, pos⟩ := by
  have hscale : ¬ (scale : Int) < 1 := by
    omega
  simp [ofNumber, hscale]

/-- An operation with each conversion and each result checked.  The reading on decimals is given with
the scale as an integer. -/
def applyChecked
    (op : Operation)
    (approximate : Int → Decimal → Decimal → Except Failure Decimal)
    (a b : Value) : Except Failure Value :=
  let scale : Int := (max a.scale b.scale : Nat)
  match a.number, b.number with
  | .exact p, .exact q =>
      match op.exact p q with
      | .error f => .error f
      | .ok r => ofRational r scale
  | _, _ =>
      match a.toDecimal (some scale), b.toDecimal (some scale) with
      | .error f, _ => .error f
      | _, .error f => .error f
      | .ok x, .ok y =>
          match approximate scale x y with
          | .error f => .error f
          | .ok d => ofDecimal d scale

/-- The checks change nothing where the two readings on decimals agree. -/
theorem applyChecked_eq_apply
    {op : Operation}
    {approximate : Int → Decimal → Decimal → Except Failure Decimal}
    (h : ∀ (scale : Nat) (x y : Decimal), approximate scale x y = op.approximate scale x y)
    (a b : Value) :
    applyChecked op approximate a b = apply op a b := by
  have pos : 1 ≤ max a.scale b.scale :=
    le_trans a.scale_pos (le_max_left _ _)
  have happroximate :
      ∀ x y : Decimal,
        (match approximate ((max a.scale b.scale : Nat) : Int) x y with
          | .error f => .error f
          | .ok d => ofDecimal d ((max a.scale b.scale : Nat) : Int)) =
          (op.approximate (max a.scale b.scale) x y).map fun d =>
            (⟨.approximate d, max a.scale b.scale, pos⟩ : Value) := by
    intro x y
    rw [h]
    cases op.approximate (max a.scale b.scale) x y with
    | error f =>
        rfl
    | ok d =>
        exact ofNumber_of_pos _ pos
  unfold applyChecked apply
  dsimp only
  rw [toDecimal_of_scale, toDecimal_of_scale]
  cases hx : a.number with
  | exact p =>
      cases hy : b.number with
      | exact q =>
          dsimp only
          cases op.exact p q with
          | error f =>
              rfl
          | ok r =>
              exact ofNumber_of_pos _ pos
      | approximate e =>
          exact happroximate _ _
  | approximate d =>
      cases hy : b.number <;> exact happroximate _ _

end Value

end Reckoner
