import Reckoner.Proofs.Number.DecimalValue

/-!
# Divisors that count as zero

A quotient of two exact values looks at the number of the divisor.  As soon as one operand is
approximate it looks at the divisor as a decimal, and an exact divisor has been rounded by then.

**Results.**
* `divide_fails_divisionByZero_iff`: which quotients fail as a division by zero.
* `divide_tiny_divisor`: a divisor that is not zero among them.
-/

namespace Reckoner

/-- A quotient of decimals fails, and as a division by zero, where the divisor is zero. -/
theorem Decimal.divide_divisionByZero_iff
    (scale : Nat)
    (a b : Decimal) :
    (∃ f : Failure, Decimal.divide scale a b = .error f ∧ f.kind = .divisionByZero) ↔
      b.isZero = true := by
  unfold Decimal.divide
  constructor
  · rintro ⟨f, hf, -⟩
    by_contra hb
    rw [if_neg hb] at hf
    cases hf
  · intro hb
    exact ⟨_, if_pos hb, rfl⟩

namespace Value

/-- Carrying a result over to a value changes no failure. -/
theorem map_error_iff
    {α β : Type}
    (r : Except Failure α)
    (g : α → β)
    (k : Failure.Kind) :
    (∃ f : Failure, r.map g = .error f ∧ f.kind = k) ↔
      ∃ f : Failure, r = .error f ∧ f.kind = k := by
  cases r with
  | error e =>
      simp [Except.map]
  | ok a =>
      simp [Except.map]

/-- A quotient fails as a division by zero where the divisor is zero, and besides where the dividend
is approximate and the divisor an exact number nearer to zero than half a unit of the last place of
the larger scale. -/
theorem divide_fails_divisionByZero_iff
    (a b : Value) :
    (∃ f : Failure, a.divide b = .error f ∧ f.kind = .divisionByZero) ↔
      b.number.toRat = 0 ∨
        (a.number.isExact = false ∧
          b.number.isExact = true ∧
          |b.number.toRat| < 1 / (2 * 10 ^ max a.scale b.scale)) := by
  obtain ⟨x, s, hs⟩ := a
  obtain ⟨y, u, hu⟩ := b
  unfold divide apply
  cases x with
  | exact p =>
      cases y with
      | exact q =>
          rw [map_error_iff, Rational.divide_divisionByZero_iff]
          simp [Number.toRat, Number.isExact]
      | approximate e =>
          rw [map_error_iff, Decimal.divide_divisionByZero_iff]
          simp [Number.toRat, Number.isExact, Number.toDecimal, Decimal.isZero_iff]
  | approximate d =>
      cases y with
      | exact q =>
          rw [map_error_iff, Decimal.divide_divisionByZero_iff]
          simp only [Number.toDecimal, Rational.isZero_rounded_iff, Number.toRat, Number.isExact,
            true_and]
          constructor
          · exact Or.inr
          · rintro (hq | hq)
            · rw [hq, abs_zero]
              positivity
            · exact hq
      | approximate e =>
          rw [map_error_iff, Decimal.divide_divisionByZero_iff]
          simp [Number.toRat, Number.isExact, Number.toDecimal, Decimal.isZero_iff]

/-- One, as a decimal, over a hundred-thousand-millionth, as an exact number. -/
theorem divide_tiny_divisor :
    ∃ a b : Value,
      a.number = .approximate ⟨false, 100000000000, -11⟩ ∧
      b.number.toRat = 1 / 100000000000 ∧
      a.scale = 10 ∧
      b.scale = 10 ∧
      a.divide b = .error (.zeroDivisor (some "1")) := by
  refine
    ⟨⟨.approximate ⟨false, 100000000000, -11⟩, 10, by decide⟩,
      ⟨.exact ⟨1, 100000000000, by decide, by decide, by decide⟩, 10, by decide⟩,
      rfl, ?_, rfl, rfl, ?_⟩
  · rw [Number.toRat, Rational.toRat_eq_div]
    norm_num
  · decide +kernel

end Value
end Reckoner
