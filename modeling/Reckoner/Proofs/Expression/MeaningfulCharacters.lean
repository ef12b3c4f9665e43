import Reckoner.Proofs.Expression.OperatorStack

/-!
# Characters without a meaning

Digits, points, parentheses and the symbols of operators have a meaning in an expression.  A conversion
passes over every other character, so it reads a text as it reads what is left of the text without
them.

**Results.**
* `step_of_not_meaningful`: such a character changes nothing.
* `toPostfix_meaningful`: nor do all of them together.
-/

namespace Reckoner
namespace Expression

/-- Whether a character has a meaning in an expression. -/
def isMeaningful (c : Char) : Bool :=
  Conversion.isOperandChar c || c == '(' || c == ')' || (Operator.ofChar? c).isSome

/-- The characters of a text that have a meaning. -/
def meaningful (cs : List Char) : List Char :=
  cs.filter isMeaningful

theorem isMeaningful_of_mem_meaningful
    {cs : List Char} {c : Char}
    (h : c ∈ meaningful cs) :
    isMeaningful c = true :=
  (List.mem_filter.mp h).2

namespace Conversion

/-- A character without a meaning changes nothing. -/
theorem step_of_not_meaningful
    (s : Conversion)
    {c : Char}
    (h : isMeaningful c = false) :
    s.step c = .ok s := by
  simp only [isMeaningful, Bool.or_eq_false_iff, beq_eq_false_iff_ne, Option.isSome_eq_false_iff,
    Option.isNone_iff_eq_none] at h
  obtain ⟨⟨⟨hoperand, hopening⟩, hclosing⟩, hoperator⟩ := h
  simp [step, hoperand, hopening, hclosing, hoperator]

/-- The steps over a text are those over its characters with a meaning. -/
theorem run_meaningful
    (s : Conversion)
    (cs : List Char) :
    run s (meaningful cs) = run s cs := by
  induction cs generalizing s with
  | nil =>
      rfl
  | cons c cs ih =>
      cases hc : isMeaningful c with
      | true =>
          rw [meaningful, List.filter_cons_of_pos hc, run, run]
          cases step s c with
          | error f =>
              rfl
          | ok s' =>
              exact ih s'
      | false =>
          rw [meaningful, List.filter_cons_of_neg (by simp [hc]), run, s.step_of_not_meaningful hc]
          exact ih s

end Conversion

/-- The postfix form of a text is that of its characters with a meaning. -/
theorem toPostfix_meaningful
    (cs : List Char) :
    toPostfix (meaningful cs) = toPostfix cs := by
  rw [toPostfix, toPostfix, Conversion.run_meaningful]

end Expression
end Reckoner
