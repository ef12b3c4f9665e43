import Reckoner.Proofs.Expression.Approximation
import Reckoner.Proofs.Number.Rounding

/-!
# Sums, differences and products of values

The coefficient of a decimal has as many digits as it needs, so decimals are added, subtracted and
multiplied exactly.  A value is rounded in one place only: where an exact operand meets an approximate
one, the exact one becomes a decimal of the larger scale.  What is lost there is at most half a unit of
the last place, and nothing at all where the denominator divides the power of ten; the operation on the
two decimals then carries this one error over to its result.

**Results.**
* `Decimal.toRat_add`, `Decimal.toRat_subtract`, `Decimal.toRat_multiply`: arithmetic of decimals.
* `Rational.abs_toRat_rounded_sub_le`, `Rational.toRat_rounded_of_hasPlaces`: a rational as a decimal.
* `Operator.abs_onRat_sub_left`, `Operator.abs_onRat_sub_right`: what an error of an operand does.
* `Value.arithmetic_roundsOnce`: the three operations on values.
-/

namespace Reckoner

namespace Decimal

section Arithmetic

variable (a b d : Decimal)

/-- The coefficient in units of a finer place is the number in these units. -/
theorem unitsAt_mul
    {e : ℤ}
    (h : e ≤ d.exponent) :
    (d.unitsAt e : ℚ) * 10 ^ e = d.toRat := by
  have hshift : ((d.exponent - e).toNat : ℤ) = d.exponent - e :=
    Int.toNat_of_nonneg (Int.sub_nonneg.mpr h)
  rw [unitsAt, toRat]
  push_cast
  rw [cast_tenPow, ← zpow_natCast, hshift, mul_assoc, ← zpow_add₀ (by norm_num), sub_add_cancel]

theorem signed_add :
    (a.add b).signed =
      a.unitsAt (min a.exponent b.exponent) + b.unitsAt (min a.exponent b.exponent) := by
  by_cases hzero :
      a.unitsAt (min a.exponent b.exponent) + b.unitsAt (min a.exponent b.exponent) = 0
  · simp [add, signed, hzero]
  · simp only [add, signed, if_neg hzero, decide_eq_true_eq]
    split_ifs <;> omega

@[simp] theorem exponent_add :
    (a.add b).exponent = min a.exponent b.exponent := by
  rfl

/-- A sum is exact. -/
theorem toRat_add :
    (a.add b).toRat = a.toRat + b.toRat := by
  rw [toRat, signed_add, exponent_add, Int.cast_add, add_mul, unitsAt_mul a (min_le_left _ _),
    unitsAt_mul b (min_le_right _ _)]

@[simp] theorem signed_neg :
    d.neg.signed = -d.signed := by
  cases hnegative : d.negative <;> simp [neg, signed, hnegative]

theorem toRat_neg :
    d.neg.toRat = -d.toRat := by
  rw [toRat, signed_neg, Int.cast_neg, neg_mul]
  rfl

/-- So is a difference. -/
theorem toRat_subtract :
    (a.subtract b).toRat = a.toRat - b.toRat := by
  rw [subtract, toRat_add, toRat_neg, sub_eq_add_neg]

theorem signed_multiply :
    (a.multiply b).signed = a.signed * b.signed := by
  cases ha : a.negative <;> cases hb : b.negative <;> simp [multiply, signed, ha, hb]

/-- And a product. -/
theorem toRat_multiply :
    (a.multiply b).toRat = a.toRat * b.toRat := by
  rw [toRat, signed_multiply, toRat, toRat, multiply, zpow_add₀ (by norm_num : (10 : ℚ) ≠ 0)]
  push_cast
  ring

end Arithmetic

end Decimal

namespace Rational

section Rounded

variable (q : Rational) (places : ℕ)

/-- A rational becomes the decimal of its number. -/
theorem rounded_eq_ofRat :
    q.rounded places = .ofRat q.toRat places := by
  rfl

/-- A rational as a decimal is rounded once. -/
theorem abs_toRat_rounded_sub_le :
    |(q.rounded places).toRat - q.toRat| ≤ 1 / (2 * 10 ^ places) := by
  rw [rounded_eq_ofRat]
  exact Decimal.abs_toRat_ofRat_sub_le q.toRat places

/-- It is not rounded at all if it has no more places. -/
theorem toRat_rounded_of_hasPlaces
    {q : Rational}
    {places : ℕ}
    (h : HasPlaces q.toRat places) :
    (q.rounded places).toRat = q.toRat := by
  rw [rounded_eq_ofRat, Decimal.toRat_ofRat_of_hasPlaces h]

end Rounded

end Rational

@[simp] theorem Number.toDecimal_approximate
    (d : Decimal)
    (places : ℕ) :
    (Number.approximate d).toDecimal places = d := by
  rfl

/-- A number is kept as a decimal, if it is approximate or has no more places. -/
theorem Number.toRat_toDecimal
    {n : Number}
    {places : ℕ}
    (h : n.isExact = true → HasPlaces n.toRat places) :
    (n.toDecimal places).toRat = n.toRat := by
  cases n with
  | exact q =>
      exact Rational.toRat_rounded_of_hasPlaces (h rfl)
  | approximate d =>
      rfl

/-- As soon as one operand is approximate, an operation is its reading on decimals. -/
theorem Value.apply_of_approximate
    (op : Operation)
    {a b : Value}
    (h : a.number.isExact = false ∨ b.number.isExact = false) :
    apply op a b =
      (op.approximate (max a.scale b.scale) (a.number.toDecimal (max a.scale b.scale))
        (b.number.toDecimal (max a.scale b.scale))).map fun d =>
          ⟨.approximate d, max a.scale b.scale, le_trans a.scale_pos (le_max_left _ _)⟩ := by
  obtain ⟨x, s, hs⟩ := a
  obtain ⟨y, t, ht⟩ := b
  cases x with
  | exact p =>
      cases y with
      | exact q =>
          simp [Number.isExact] at h
      | approximate e =>
          rfl
  | approximate d =>
      cases y <;> rfl

namespace Operator

/-- How much an error in one operand of a sum, a difference or a product counts in the result, by the
other operand. -/
def slope (op : Operator) (other : ℚ) : ℚ := if op = times then |other| else 1

section Errors

variable {op : Operator}

theorem slope_nonneg
    (op : Operator)
    (other : ℚ) :
    0 ≤ op.slope other := by
  unfold slope
  split_ifs
  · exact abs_nonneg other
  · exact zero_le_one

/-- An error of the left operand. -/
theorem abs_onRat_sub_left
    (hop : op ≠ dividedBy)
    (x x' y : ℚ) :
    |op.onRat x y - op.onRat x' y| = op.slope y * |x - x'| := by
  cases op with
  | plus =>
      simp [onRat, slope]
  | minus =>
      simp [onRat, slope]
  | times =>
      simp only [onRat, slope, if_true]
      rw [← sub_mul, abs_mul, mul_comm]
  | dividedBy =>
      exact absurd rfl hop

/-- An error of the right operand. -/
theorem abs_onRat_sub_right
    (hop : op ≠ dividedBy)
    (x y y' : ℚ) :
    |op.onRat x y - op.onRat x y'| = op.slope x * |y - y'| := by
  cases op with
  | plus =>
      simp [onRat, slope]
  | minus =>
      simp [onRat, slope, abs_sub_comm]
  | times =>
      simp only [onRat, slope, if_true]
      rw [← mul_sub, abs_mul]
  | dividedBy =>
      exact absurd rfl hop

end Errors

section Readings

variable {op : Operator}

/-- Sums, differences and products of decimals are those of their numbers. -/
theorem exists_approximate
    (hop : op ≠ dividedBy)
    (scale : ℕ)
    (x y : Decimal) :
    ∃ d : Decimal,
      op.operation.approximate scale x y = .ok d ∧ d.toRat = op.onRat x.toRat y.toRat := by
  cases op with
  | plus =>
      exact ⟨_, rfl, Decimal.toRat_add x y⟩
  | minus =>
      exact ⟨_, rfl, Decimal.toRat_subtract x y⟩
  | times =>
      exact ⟨_, rfl, Decimal.toRat_multiply x y⟩
  | dividedBy =>
      exact absurd rfl hop

/-- Beside an approximate operand, the operation is that of the numbers of both operands as decimals. -/
theorem exists_apply_of_approximate
    (hop : op ≠ dividedBy)
    {a b : Value}
    (h : a.number.isExact = false ∨ b.number.isExact = false) :
    ∃ (v : Value) (d : Decimal),
      op.apply a b = .ok v ∧
      v.number = .approximate d ∧
      d.toRat =
        op.onRat (a.number.toDecimal (max a.scale b.scale)).toRat
          (b.number.toDecimal (max a.scale b.scale)).toRat := by
  obtain ⟨d, hd, hnumber⟩ :=
    exists_approximate hop (max a.scale b.scale) (a.number.toDecimal (max a.scale b.scale))
      (b.number.toDecimal (max a.scale b.scale))
  refine ⟨⟨.approximate d, max a.scale b.scale, le_trans a.scale_pos (le_max_left _ _)⟩, d, ?_, rfl,
    hnumber⟩
  rw [apply_eq_apply_operation, Value.apply_of_approximate _ h, hd]
  rfl

/-- On exact operands, the operation is that of their numbers, if the result fits. -/
theorem exists_apply_of_exact
    (hop : op ≠ dividedBy)
    {a b : Value}
    {p q : Rational}
    (ha : a.number = .exact p)
    (hb : b.number = .exact q) :
    (FitsWords (op.onRat p.toRat q.toRat).num (op.onRat p.toRat q.toRat).den →
      ∃ (v : Value) (r : Rational),
        op.apply a b = .ok v ∧ v.number = .exact r ∧ r.toRat = op.onRat p.toRat q.toRat) ∧
    (¬ FitsWords (op.onRat p.toRat q.toRat).num (op.onRat p.toRat q.toRat).den →
      ∃ f : Failure, op.apply a b = .error f ∧ f.kind = .fractionOverflow) := by
  obtain ⟨x, s, hs⟩ := a
  obtain ⟨y, t, ht⟩ := b
  cases ha
  cases hb
  have hreading : op.operation.exact p q = Rational.ofRat (op.onRat p.toRat q.toRat) := by
    rw [exact_eq_ofRat, if_neg fun hzero => hop hzero.1]
  rw [apply_eq_apply_operation, Value.apply]
  simp only [hreading]
  constructor
  · intro hfits
    obtain ⟨r, hr, hnumber⟩ := Rational.ofRat_of_fits hfits
    exact ⟨_, r, by rw [hr]; rfl, rfl, hnumber⟩
  · intro hfits
    exact ⟨_, by rw [Rational.ofRat_of_writable hfits (op.writableParts_onRat p q)]; rfl, rfl⟩

end Readings

end Operator

namespace Value

/-- An outcome is a decimal with the number of an operation on a rational, of which nothing but the
rational has been rounded, and this to `scale` places.  An error of the rational counts `slope` times. -/
def RoundsOperand
    (operation : ℚ → ℚ)
    (slope : ℚ)
    (q : Rational)
    (scale : ℕ)
    (outcome : Except Failure Value) : Prop :=
  ∃ (v : Value) (d : Decimal),
    outcome = .ok v ∧
    v.number = .approximate d ∧
    d.toRat = operation (q.rounded scale).toRat ∧
    |d.toRat - operation q.toRat| ≤ slope / (2 * 10 ^ scale) ∧
    (q.den ∣ 10 ^ scale → d.toRat = operation q.toRat)

/-- The outcome of an operation on two values has the larger scale, and is exact but for an exact operand
that is rounded beside an approximate one. -/
structure RoundsOnce
    (op : Operator)
    (a b : Value)
    (outcome : Except Failure Value) : Prop where
  scale : ∀ v : Value, outcome = .ok v → v.scale = max a.scale b.scale
  exact : ∀ p q : Rational, a.number = .exact p → b.number = .exact q →
    (FitsWords (op.onRat p.toRat q.toRat).num (op.onRat p.toRat q.toRat).den →
      ∃ (v : Value) (r : Rational),
        outcome = .ok v ∧ v.number = .exact r ∧ r.toRat = op.onRat p.toRat q.toRat) ∧
    (¬ FitsWords (op.onRat p.toRat q.toRat).num (op.onRat p.toRat q.toRat).den →
      ∃ f : Failure, outcome = .error f ∧ f.kind = .fractionOverflow)
  approximate : ∀ x y : Decimal, a.number = .approximate x → b.number = .approximate y →
    ∃ (v : Value) (d : Decimal),
      outcome = .ok v ∧ v.number = .approximate d ∧ d.toRat = op.onRat x.toRat y.toRat
  left : ∀ (q : Rational) (y : Decimal), a.number = .exact q → b.number = .approximate y →
    RoundsOperand (fun z => op.onRat z y.toRat) (op.slope y.toRat) q (max a.scale b.scale) outcome
  right : ∀ (x : Decimal) (q : Rational), a.number = .approximate x → b.number = .exact q →
    RoundsOperand (fun z => op.onRat x.toRat z) (op.slope x.toRat) q (max a.scale b.scale) outcome

/-- A decimal with the number of an operation on the rounded rational has only the error of the
rational. -/
theorem RoundsOperand.of_error
    {operation : ℚ → ℚ}
    {slope : ℚ}
    {q : Rational}
    {scale : ℕ}
    {outcome : Except Failure Value}
    (hslope : 0 ≤ slope)
    (herror : ∀ z z' : ℚ, |operation z - operation z'| = slope * |z - z'|)
    (houtcome : ∃ (v : Value) (d : Decimal),
      outcome = .ok v ∧ v.number = .approximate d ∧
        d.toRat = operation (q.rounded scale).toRat) :
    RoundsOperand operation slope q scale outcome := by
  obtain ⟨v, d, hv, hd, hnumber⟩ := houtcome
  refine ⟨v, d, hv, hd, hnumber, ?_, ?_⟩
  · rw [hnumber, herror, div_eq_mul_one_div]
    exact mul_le_mul_of_nonneg_left (q.abs_toRat_rounded_sub_le scale) hslope
  · intro hdvd
    have hplaces : HasPlaces q.toRat scale :=
      (den_dvd_pow_iff q.toRat scale).mp hdvd
    rw [hnumber, Rational.toRat_rounded_of_hasPlaces hplaces]

/-- So it is for every operator but division. -/
theorem roundsOnce_apply
    {op : Operator}
    (hop : op ≠ .dividedBy)
    (a b : Value) :
    RoundsOnce op a b (op.apply a b) where
  scale v hv := (Operator.apply_eq_ok hv).1
  exact p q ha hb := Operator.exists_apply_of_exact hop ha hb
  approximate x y ha hb := by
    have happly := Operator.exists_apply_of_approximate hop (a := a) (b := b) (.inl (by rw [ha]; rfl))
    rwa [ha, hb] at happly
  left q y ha hb := by
    have happly := Operator.exists_apply_of_approximate hop (a := a) (b := b) (.inr (by rw [hb]; rfl))
    rw [ha, hb] at happly
    exact .of_error (op.slope_nonneg _) (fun z z' => Operator.abs_onRat_sub_left hop z z' _) happly
  right x q ha hb := by
    have happly := Operator.exists_apply_of_approximate hop (a := a) (b := b) (.inl (by rw [ha]; rfl))
    rw [ha, hb] at happly
    exact .of_error (op.slope_nonneg _) (fun z z' => Operator.abs_onRat_sub_right hop _ z z') happly

/-- Sums, differences and products of values have the larger scale.  They are exact for two exact
operands, or fail for the range of the result, and exact for two approximate ones.  Beside an approximate
operand an exact one is rounded to the larger scale, which is the only error: at most half a unit of its
last place for sums and differences, and for products that many times the approximate operand. -/
theorem arithmetic_roundsOnce
    (a b : Value) :
    RoundsOnce .plus a b (a.add b) ∧
    RoundsOnce .minus a b (a.subtract b) ∧
    RoundsOnce .times a b (a.multiply b) :=
  ⟨roundsOnce_apply (by decide) a b, roundsOnce_apply (by decide) a b,
    roundsOnce_apply (by decide) a b⟩

/-- A third beside a decimal of twenty places: the third is cut to ten places, and the decimal keeps all
of its own. -/
theorem arithmetic_roundsOnce_third :
    ∃ (v : Value) (d : Decimal),
      add ⟨.exact ⟨1, 3, by decide, by decide, by decide⟩, 10, by decide⟩
        ⟨.approximate ⟨false, 1, -20⟩, 4, by decide⟩ = .ok v ∧
      v.number = .approximate d ∧
      v.scale = 10 ∧
      d.text = "0.33333333330000000001" ∧
      |d.toRat - (1 / 3 + 1 / 10 ^ 20)| ≤ 1 / (2 * 10 ^ 10) := by
  have hvalue :
      add ⟨.exact ⟨1, 3, by decide, by decide, by decide⟩, 10, by decide⟩
        ⟨.approximate ⟨false, 1, -20⟩, 4, by decide⟩ =
        .ok ⟨.approximate ⟨false, 33333333330000000001, -20⟩, 10, by decide⟩ := by
    decide +kernel
  have hsum :=
    (arithmetic_roundsOnce ⟨.exact ⟨1, 3, by decide, by decide, by decide⟩, 10, by decide⟩
      ⟨.approximate ⟨false, 1, -20⟩, 4, by decide⟩).1
  rw [hvalue] at hsum
  obtain ⟨v, d, hv, hd, -, herror, -⟩ := hsum.left _ _ rfl rfl
  cases hv
  cases hd
  refine ⟨_, _, hvalue, rfl, hsum.scale _ rfl, by decide +kernel, ?_⟩
  simpa [Operator.onRat, Operator.slope, Rational.toRat_eq_div, Decimal.toRat, Decimal.signed]
    using herror

end Value

end Reckoner
