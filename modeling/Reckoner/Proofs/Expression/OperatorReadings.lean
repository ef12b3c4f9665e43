import Reckoner.Expression.Operator
import Reckoner.Proofs.Number.CheckedArithmetic
import Reckoner.Proofs.Number.IntegerTexts

/-!
# The readings of an operator

An operator has two readings, on rationals and on decimals, and `Value.apply` chooses between them.
What can be said of an operation is said of its readings here: what it computes with the numbers of
rationals, how it can fail, and that it would not fail otherwise with every check made.

**Results.**
* `exact_eq_ofRat`: the reading on rationals is the operation on their numbers.
* `exact_failure_cause`: it fails for a zero divisor or for the range of the result, which can always
  be written.
* `apply_exact`: exact values of one scale have an exact result of that scale.
* `apply_failure`: an operation fails for a zero divisor or for the range of its result.
* `applyChecked_eq_apply`: it meets no other check.
-/

namespace Reckoner
namespace Operator

/-- The two readings of an operator. -/
def operation : Operator → Value.Operation
  | plus => ⟨Rational.add, fun _ a b => .ok (a.add b)⟩
  | minus => ⟨Rational.subtract, fun _ a b => .ok (a.subtract b)⟩
  | times => ⟨Rational.multiply, fun _ a b => .ok (a.multiply b)⟩
  | dividedBy => ⟨Rational.divide, Decimal.divide⟩

theorem apply_eq_apply_operation
    (op : Operator) :
    op.apply = Value.apply op.operation := by
  cases op <;> rfl

/-- The operation on numbers. -/
def onRat : Operator → ℚ → ℚ → ℚ
  | plus => (· + ·)
  | minus => (· - ·)
  | times => (· * ·)
  | dividedBy => (· / ·)

/-- The reading on rationals is the operation on their numbers, with a look at the range of the
result. -/
theorem exact_eq_ofRat
    (op : Operator)
    (a b : Rational) :
    op.operation.exact a b =
      if op = dividedBy ∧ b.toRat = 0 then .error (.zeroDivisor (some a.text))
      else Rational.ofRat (op.onRat a.toRat b.toRat) := by
  cases op with
  | plus =>
      simpa [operation, onRat] using Rational.add_eq_ofRat a b
  | minus =>
      simpa [operation, onRat] using Rational.subtract_eq_ofRat a b
  | times =>
      simpa [operation, onRat] using Rational.multiply_eq_ofRat a b
  | dividedBy =>
      simpa [operation, onRat] using Rational.divide_eq_ofRat a b

/-- Exact values of one scale have an exact result of that scale. -/
theorem apply_exact
    (op : Operator)
    (a b : Rational)
    {scale : Nat}
    (pos : 1 ≤ scale) :
    op.apply ⟨.exact a, scale, pos⟩ ⟨.exact b, scale, pos⟩ =
      (op.operation.exact a b).map fun q => ⟨.exact q, scale, pos⟩ := by
  rw [apply_eq_apply_operation]
  simp [Value.apply]

/-- The failures of arithmetic. -/
def Fails (f : Failure) : Prop :=
  f.kind = .divisionByZero ∨ f.kind = .fractionOverflow

/-- The number of an operation on rationals can be written. -/
theorem writableParts_onRat
    (op : Operator)
    (a b : Rational) :
    WritableParts (op.onRat a.toRat b.toRat) := by
  cases op with
  | plus =>
      exact a.writableParts_add b
  | minus =>
      exact a.writableParts_sub b
  | times =>
      exact a.writableParts_mul b
  | dividedBy =>
      exact a.writableParts_quotient b

/-- So the reading on rationals fails for a zero divisor or for the range of its result only. -/
theorem exact_failure_cause
    {op : Operator}
    {a b : Rational}
    {f : Failure}
    (h : op.operation.exact a b = .error f) :
    f = .zeroDivisor (some a.text) ∨
      f = .fractionRange (op.onRat a.toRat b.toRat).num (op.onRat a.toRat b.toRat).den := by
  rw [exact_eq_ofRat] at h
  split at h
  · exact .inl (Except.error.inj h).symm
  · exact .inr (Rational.eq_fractionRange_of_ofRat (op.writableParts_onRat a b) h)

theorem exact_failure
    {op : Operator}
    {a b : Rational}
    {f : Failure}
    (h : op.operation.exact a b = .error f) :
    Fails f := by
  rcases exact_failure_cause h with rfl | rfl
  · exact .inl rfl
  · exact .inr rfl

/-- The reading on decimals fails for a zero divisor only, and tells of the dividend. -/
theorem approximate_failure
    {op : Operator}
    {scale : Nat}
    {a b : Decimal}
    {f : Failure}
    (h : op.operation.approximate scale a b = .error f) :
    f = .zeroDivisor (some a.text) := by
  cases op with
  | plus | minus | times =>
      cases h
  | dividedBy =>
      simp only [operation, Decimal.divide] at h
      split at h
      · cases h
        rfl
      · cases h

/-- What is true of all failures of both readings is true of all failures of the operation. -/
theorem apply_failure_of_readings
    {P : Failure → Prop}
    {op : Operator}
    (hexact : ∀ (a b : Rational) (f : Failure), op.operation.exact a b = .error f → P f)
    (happroximate : ∀ dividend : Decimal, P (.zeroDivisor (some dividend.text)))
    {a b : Value}
    {f : Failure}
    (h : op.apply a b = .error f) :
    P f := by
  have of_map :
      ∀ {α : Type} {r : Except Failure α} {g : α → Value},
        (∀ f, r = .error f → P f) → r.map g = .error f → P f := by
    intro α r g hr hmap
    cases r with
    | error e =>
        cases hmap
        exact hr _ rfl
    | ok a =>
        cases hmap
  rw [apply_eq_apply_operation, Value.apply] at h
  split at h
  · exact of_map (hexact _ _) h
  · refine of_map ?_ h
    intro f hf
    rw [approximate_failure hf]
    exact happroximate _

/-- An operation fails for a zero divisor or for the range of its result. -/
theorem apply_failure
    {op : Operator}
    {a b : Value}
    {f : Failure}
    (h : op.apply a b = .error f) :
    Fails f :=
  apply_failure_of_readings (fun _ _ _ => exact_failure) (fun _ => .inl rfl) h

/-- An operator with every check made. -/
def applyChecked (op : Operator) : Value → Value → Except Failure Value :=
  Value.applyChecked op.operation
    (match op with
      | plus => fun _ a b => .ok (a.add b)
      | minus => fun _ a b => .ok (a.subtract b)
      | times => fun _ a b => .ok (a.multiply b)
      | dividedBy => Decimal.divideChecked)

/-- No operation meets any of the checks. -/
theorem applyChecked_eq_apply
    (op : Operator)
    (a b : Value) :
    op.applyChecked a b = op.apply a b := by
  rw [apply_eq_apply_operation]
  refine Value.applyChecked_eq_apply ?_ a b
  intro scale x y
  cases op with
  | plus | minus | times =>
      rfl
  | dividedBy =>
      exact Decimal.divideChecked_eq_divide scale x y

end Operator
end Reckoner
