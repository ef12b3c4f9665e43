import Reckoner.Text.Quoted

/-!
# Failures

Every way in which a calculation ends without a value, each with its cause. `Failure.kind` sorts the
causes into the classes a caller tells apart, and `Failure.message` words them.

An integer has a text only up to a number of digits. A failure whose wording holds integers is raised
through `Failure.worded`, and where one of them has no text, it is this that fails.
-/

namespace Reckoner

/-- The most digits of an integer that is read from a text or written as one. It is not unfolded on the
way of a proof, where powers with this exponent would be computed. -/
@[irreducible] def longestInteger : Nat := 4300

theorem longestInteger_eq : longestInteger = 4300 := by
  unfold longestInteger
  rfl

/-- Whether an integer has few enough digits to be written. -/
def IsWritable (n : Int) : Prop := n.natAbs < Nat.pow 10 longestInteger

instance (n : Int) : Decidable (IsWritable n) := by unfold IsWritable; infer_instance

/-- Why a calculation has no value. -/
inductive Failure where
  /-- A quotient by zero; the dividend, as it is written, where it is known. -/
  | zeroDivisor (dividend : Option String)
  /-- A closing parenthesis that nothing opened. -/
  | unexpectedClosing
  /-- An opening parenthesis that nothing closes. -/
  | unclosedOpening
  /-- A token that found fewer than two values to its left. -/
  | missingOperand (token : String)
  /-- An expression without any value. -/
  | noValue
  /-- Several values and nothing left to join them. -/
  | valuesLeft (count : Nat)
  /-- A fraction over zero. -/
  | zeroDenominator
  /-- A text that is not a numeral. -/
  | notNumeral (text : String)
  /-- An exact value whose payload is not exactly one fraction. -/
  | exactPayload
  /-- An approximate value whose payload is not exactly one decimal. -/
  | approximatePayload
  /-- A reduced fraction with a part outside the 64-bit words. -/
  | fractionRange (num : Int) (den : Nat)
  /-- A numeral with too many digits before its point. -/
  | numeralRange (digits : Int)
  /-- A number of places below zero. -/
  | negativeScale (scale : Int)
  /-- A value with no place after the point. -/
  | scaleBelowOne (scale : Int)
  /-- A numeral of which a line end is all that is left. -/
  | lineEndNumeral
  /-- Fraction parts that are not both integers, by the names of their types. -/
  | partTypes (num den : String)
  /-- An integer with too many digits for a text: their number, where they are to be read. -/
  | integerLength (digits : Option Nat)
  deriving DecidableEq, Repr

namespace Failure

/-- The classes of failures that callers tell apart. -/
inductive Kind where
  | divisionByZero
  | malformedExpression
  | invalidConstruction
  | fractionOverflow
  | invalidArgument
  | wrongType
  deriving DecidableEq, Repr

/-- The class of a failure. -/
def kind : Failure → Kind
  | zeroDivisor _ => .divisionByZero
  | unexpectedClosing | unclosedOpening | missingOperand _ | noValue | valuesLeft _ =>
      .malformedExpression
  | zeroDenominator | notNumeral _ | exactPayload | approximatePayload => .invalidConstruction
  | fractionRange _ _ | numeralRange _ => .fractionOverflow
  | negativeScale _ | scaleBelowOne _ | lineEndNumeral | integerLength _ => .invalidArgument
  | partTypes _ _ => .wrongType

/-- The wording of a failure. -/
def message : Failure → String
  | zeroDivisor none => "Division by zero"
  | zeroDivisor (some dividend) => "Division by zero: " ++ dividend ++ " / 0"
  | unexpectedClosing => "Mismatched parentheses: unexpected ')'"
  | unclosedOpening => "Mismatched parentheses: unclosed '('"
  | missingOperand token => "Malformed expression: missing operand for '" ++ token ++ "'"
  | noValue => "Malformed expression: no value to evaluate"
  | valuesLeft count =>
      "Malformed expression: " ++ count.repr ++ " values left after evaluation, expected 1"
  | zeroDenominator => "Denominator cannot be zero."
  | notNumeral text => "Not a numeric literal: " ++ Text.quoted text
  | exactPayload => "FRACTION value requires only a fraction payload"
  | approximatePayload => "DECIMAL value requires only a decimal payload"
  | fractionRange num den =>
      "Fraction " ++ num.repr ++ "/" ++ den.repr ++ " exceeds the 64-bit range"
  | numeralRange digits =>
      "Literal with " ++ digits.repr ++ " integer digits exceeds the 64-bit range"
  | negativeScale scale => "scale must be non-negative, got " ++ scale.repr
  | scaleBelowOne scale => "scale must be >= 1, got " ++ scale.repr
  | lineEndNumeral => "invalid literal for int() with base 10: " ++ Text.quoted "\n"
  | partTypes num den => "Fraction parts must be integers, got " ++ num ++ "/" ++ den
  | integerLength digits =>
      "Exceeds the limit (" ++ longestInteger.repr ++ " digits) for integer string conversion" ++
        (match digits with
          | some count => ": value has " ++ count.repr ++ " digits"
          | none => "") ++
        "; use sys.set_int_max_str_digits() to increase the limit"

/-- Whether the integers in the wording of a failure can be written. The counts in it are those of
characters and values, of which there are never so many. -/
def Writable : Failure → Prop
  | fractionRange num den => IsWritable num ∧ IsWritable den
  | negativeScale scale | scaleBelowOne scale => IsWritable scale
  | _ => True

instance : DecidablePred Writable := fun f => by unfold Writable; split <;> infer_instance

/-- What comes of raising a failure: itself, if it can be worded. -/
def worded (f : Failure) : Failure := if f.Writable then f else .integerLength none

theorem worded_of_writable {f : Failure} (h : f.Writable) : f.worded = f := if_pos h

theorem worded_of_not_writable {f : Failure} (h : ¬ f.Writable) :
    f.worded = .integerLength none := if_neg h

theorem worded_cases (f : Failure) : f.worded = f ∨ f.worded = .integerLength none := by
  unfold worded
  split
  · exact .inl rfl
  · exact .inr rfl

theorem kind_worded (f : Failure) : f.worded.kind = f.kind ∨ f.worded.kind = .invalidArgument := by
  rcases f.worded_cases with h | h <;> rw [h]
  · exact .inl rfl
  · exact .inr rfl

theorem writable_worded (f : Failure) : f.worded.Writable := by
  unfold worded
  split
  · assumption
  · trivial

end Failure
end Reckoner
