import Reckoner.Batch.Run
import Reckoner.Proofs.Expression.CheckedEvaluation
import Reckoner.Session

/-!
# Answers

A batch and a session answer the failures of calculations, and let any other failure through.  Here
both work on the evaluation with every check made, so a failure that is let through would be
seen.  There is none: with any settings and for any text a calculation has a value that can be
written, or fails in one of the three ways that are answered.

**Results.**
* `answerLineChecked_eq_answerLine`, `answerChecked_eq_answer`: every line is answered.
* `evaluate_failure_kinds`: what an evaluation leads to, for any settings and any text.
-/

namespace Reckoner

/-- Whether a failure of this class is answered. -/
def Failure.Kind.isAnswered : Failure.Kind → Bool
  | divisionByZero | malformedExpression | invalidConstruction | fractionOverflow => true
  | invalidArgument | wrongType => false

/-- The failures of a calculation are answered. -/
theorem Failure.OfCalculation.isAnswered
    {f : Failure}
    (h : f.OfCalculation) :
    f.kind.isAnswered = true := by
  rcases h.kind with hkind | hkind | hkind <;> rw [hkind] <;> rfl

namespace Settings

/-- An evaluation with some settings fails as a calculation. -/
theorem evaluate_ofCalculation
    (s : Settings)
    {cs : List Char}
    {f : Failure}
    (h : (Expression.evaluate s.precision cs).result = .error f) :
    f.OfCalculation :=
  Expression.evaluate_failure (Int.ofNat_le.mpr s.scale_bounds.1)
    (Int.ofNat_le.mpr s.exactPlaces_le) h

end Settings

namespace Batch

/-- Evaluates one line with every check made, and lets a failure through that is not answered. -/
def answerLineChecked (s : Settings) (lineNumber : Int) (line : List Char) :
    Except Failure Answered :=
  let cs := Text.strip line
  let expression := String.ofList cs
  let outcome := Expression.evaluateChecked s.precision cs
  let log := outcome.events.map LogEntry.ofEvent
  match outcome.result with
  | .ok v => .ok ⟨⟨lineNumber, expression, some v.text, none⟩, log⟩
  | .error f =>
      if f.kind.isAnswered then
        .ok ⟨⟨lineNumber, expression, none, some f.message⟩,
          log ++ [failureEntry lineNumber expression f.message]⟩
      else .error f

/-- Every line of a batch is answered. -/
theorem answerLineChecked_eq_answerLine
    (s : Settings)
    (lineNumber : Int)
    (line : List Char) :
    answerLineChecked s lineNumber line = .ok (answerLine s lineNumber line) := by
  unfold answerLineChecked answerLine Expression.calculate
  dsimp only
  rw [Expression.evaluateChecked_eq_evaluate]
  cases hresult : (Expression.evaluate s.precision (Text.strip line)).result with
  | ok v =>
      rfl
  | error f =>
      dsimp only
      rw [if_pos (s.evaluate_ofCalculation hresult).isAnswered]
      rfl

end Batch

namespace Session

/-- Answers one line with every check made, and lets a failure through that is not answered. -/
def answerChecked (s : Settings) (line : List Char) : Except Failure Answer :=
  let outcome := Expression.evaluateChecked s.precision line
  let log := outcome.events.map LogEntry.ofEvent
  match outcome.result with
  | .ok v => .ok ⟨"Result: " ++ v.text, log⟩
  | .error f =>
      if f.kind.isAnswered then
        .ok ⟨"Err: " ++ f.message, log ++ [failureEntry line f.message]⟩
      else .error f

/-- Every line of a session is answered. -/
theorem answerChecked_eq_answer
    (s : Settings)
    (line : List Char) :
    answerChecked s line = .ok (answer s line) := by
  unfold answerChecked answer Expression.calculate
  dsimp only
  rw [Expression.evaluateChecked_eq_evaluate]
  cases hresult : (Expression.evaluate s.precision line).result with
  | ok v =>
      rfl
  | error f =>
      dsimp only
      rw [if_pos (s.evaluate_ofCalculation hresult).isAnswered]
      rfl

end Session

namespace Expression

/-- With any settings, and for any text, no check fails on the way of an evaluation.  It has a value
that can be written, or is malformed, divides by zero or has a number beyond the words, and a batch
and a session answer it in either case. -/
theorem evaluate_failure_kinds
    (s : Settings)
    (cs : List Char) :
    evaluateChecked s.precision cs = evaluate s.precision cs ∧
    ((∃ v : Value,
        (evaluate s.precision cs).result = .ok v ∧
        (calculate s.precision cs).result = .ok v.text ∧
        v.number.Writable) ∨
      ∃ f : Failure,
        (evaluate s.precision cs).result = .error f ∧
        (f.kind = .malformedExpression ∨ f.kind = .divisionByZero ∨ f.kind = .fractionOverflow) ∧
        f.Writable) ∧
    (∀ lineNumber : Int,
      Batch.answerLineChecked s lineNumber cs = .ok (Batch.answerLine s lineNumber cs)) ∧
    Session.answerChecked s cs = .ok (Session.answer s cs) := by
  refine ⟨evaluateChecked_eq_evaluate _ cs, ?_, ?_, Session.answerChecked_eq_answer s cs⟩
  · cases hresult : (evaluate s.precision cs).result with
    | ok v =>
        refine .inl ⟨v, rfl, ?_, v.number.writable⟩
        simp only [calculate, hresult]
        rfl
    | error f =>
        have hf := s.evaluate_ofCalculation hresult
        exact .inr ⟨f, rfl, hf.kind, hf.writable⟩
  · intro lineNumber
    exact Batch.answerLineChecked_eq_answerLine s lineNumber cs

end Expression
end Reckoner
