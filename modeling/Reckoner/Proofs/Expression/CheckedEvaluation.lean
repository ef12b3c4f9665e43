import Reckoner.Proofs.Expression.FailureCauses

/-!
# Evaluation with every check made

An evaluation may be made with every check that could fail on the way: the postfix form is written
and read back, and the scale and the denominator of every value are looked at.  None of these checks
ever fails.  What fails is a text whose parentheses or operands do not match, a quotient by zero, or a
result beyond the words.

**Results.**
* `foldTokens_eq_foldWith`: the fold of tokens with its reading of operators as a parameter.
* `evaluateChecked_eq_evaluate`: the checks change nothing.
* `evaluate_failure`: an evaluation fails in one of three ways.
-/

namespace Reckoner

/-- The failures of a calculation, with a wording that can be written. -/
structure Failure.OfCalculation (f : Failure) : Prop where
  kind : f.kind = .malformedExpression ∨ f.kind = .divisionByZero ∨ f.kind = .fractionOverflow
  writable : f.Writable

/-- The failure of a malformed expression can be written. -/
theorem Failure.OfCalculation.of_malformed
    {f : Failure}
    (h : f.kind = .malformedExpression) :
    f.OfCalculation := by
  refine ⟨.inl h, ?_⟩
  cases f with
  | fractionRange | negativeScale | scaleBelowOne =>
      cases h
  | _ =>
      trivial

namespace Operator

/-- What an exact operation refuses can be written. -/
theorem exact_failure_writable
    {op : Operator}
    {a b : Rational}
    {f : Failure}
    (h : op.operation.exact a b = .error f) :
    f.Writable := by
  rcases exact_failure_cause h with rfl | rfl
  · trivial
  · exact op.writableParts_onRat a b

/-- What an operation refuses is a failure of a calculation. -/
theorem apply_ofCalculation
    {op : Operator}
    {a b : Value}
    {f : Failure}
    (h : op.apply a b = .error f) :
    f.OfCalculation :=
  ⟨.inr (apply_failure h),
    apply_failure_of_readings (fun _ _ _ => exact_failure_writable) (fun _ => trivial) h⟩

end Operator

namespace Expression

/-- A fold of tokens with any reading of operators. -/
def foldWith
    (p : Precision)
    (operate : Operator → Value → Value → Except Failure Value)
    (stack : List Value) : List Token → Outcome Value
  | [] => .plain (conclude stack)
  | .operand cs :: rest =>
      if Numeral.isNumeral cs then
        match Numeral.toValue p cs with
        | .error f => .plain (.error f)
        | .ok v => foldWith p operate (v :: stack) rest
      else
        match stack with
        | right :: left :: stack =>
            (foldWith p operate stack rest).after (.discarded cs left right)
        | _ => .plain (.error (.missingOperand (String.ofList cs)))
  | .operator op :: rest =>
      match stack with
      | right :: left :: stack =>
          match operate op left right with
          | .error f => .plain (.error f)
          | .ok v => foldWith p operate (v :: stack) rest
      | _ => .plain (.error (.missingOperand (String.singleton op.symbol)))

/-- The fold of tokens reads operators as operations on values. -/
theorem foldTokens_eq_foldWith
    (p : Precision)
    (stack : List Value)
    (tokens : List Token) :
    foldTokens p stack tokens = foldWith p Operator.apply stack tokens := by
  induction tokens generalizing stack with
  | nil =>
      rfl
  | cons token rest ih =>
      cases token with
      | operand cs =>
          unfold foldTokens foldWith
          by_cases hnumeral : Numeral.isNumeral cs = true
          · rw [if_pos hnumeral, if_pos hnumeral]
            cases Numeral.toValue p cs with
            | error f =>
                rfl
            | ok v =>
                exact ih (v :: stack)
          · rw [if_neg hnumeral, if_neg hnumeral]
            rcases stack with _ | ⟨right, _ | ⟨left, stack⟩⟩
            · rfl
            · rfl
            · exact congrArg (Outcome.after (.discarded cs left right)) (ih stack)
      | operator op =>
          rcases stack with _ | ⟨right, _ | ⟨left, stack⟩⟩
          · rfl
          · rfl
          · unfold foldTokens foldWith
            cases hvalue : op.apply left right with
            | error f =>
                simp only [hvalue]
            | ok v =>
                simp only [hvalue]
                exact ih (v :: stack)

/-- The value of an infix expression with every check made. -/
def evaluateChecked (p : Precision) (cs : List Char) : Outcome Value :=
  match toPostfix (insertProducts cs) with
  | .error f => .plain (.error f)
  | .ok tokens =>
      (foldWith p Operator.applyChecked [] (readPostfix (showPostfix tokens))).after
        (.converted tokens)

/-- The checks change nothing. -/
theorem evaluateChecked_eq_evaluate
    (p : Precision)
    (cs : List Char) :
    evaluateChecked p cs = evaluate p cs := by
  have hoperate : Operator.applyChecked = Operator.apply :=
    funext fun op => funext fun a => funext fun b => op.applyChecked_eq_apply a b
  rw [evaluateChecked, evaluate_eq_evaluatePostfix, hoperate]
  cases toPostfix (insertProducts cs) with
  | error f =>
      rfl
  | ok tokens =>
      dsimp only
      rw [evaluatePostfix, foldTokens_eq_foldWith]

/-- What the numbers of a postfix form are refused for can be written. -/
theorem NumberFailure.writable
    {p : Precision}
    (hscale : 1 ≤ p.scale)
    {tokens : List Token}
    {f : Failure}
    (h : NumberFailure p tokens f) :
    f.Writable := by
  cases h with
  | @numeral cs hmem hnumeral hvalue =>
      exact (Numeral.toRational_failure (Numeral.toValue_failure hscale hnumeral hvalue).2).2
  | operation _ hvalue =>
      exact (Operator.apply_ofCalculation hvalue).writable

/-- An evaluation fails for the form of its text, for a zero divisor or for the range of a number. -/
theorem evaluate_failure
    {p : Precision}
    (hscale : 1 ≤ p.scale)
    (hplaces : p.exactPlaces ≤ 18)
    {cs : List Char}
    {f : Failure}
    (h : (evaluate p cs).result = .error f) :
    f.OfCalculation := by
  refine ⟨evaluate_failure_kind_of_le hscale (by omega) h, ?_⟩
  rcases evaluate_failure_cause h with hmalformed | ⟨tokens, -, hnumber⟩
  · exact (Failure.OfCalculation.of_malformed hmalformed).writable
  · exact hnumber.writable hscale

end Expression
end Reckoner
