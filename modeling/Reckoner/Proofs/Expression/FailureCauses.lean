import Reckoner.Proofs.Expression.OperatorReadings
import Reckoner.Proofs.Expression.PostfixTokens
import Reckoner.Proofs.Expression.TokenFold
import Reckoner.Proofs.Number.NumeralFailures

/-!
# Causes of failures

An evaluation fails because the form of its text is wrong, because a numeral of its postfix form has no
value, or because an operation has none.  Whatever is to be shown of its failures is shown for these
causes.  A numeral of the postfix form has no value for its range; only with thousands of exact places it
may also meet the limit of texts.

**Results.**
* `toPostfix_failure`: a conversion fails for its parentheses.
* `evaluate_failure_cases`, `evaluate_failure_cause`: the causes of a failure.
* `evaluate_failure_kind`, `evaluate_failure_kind_of_le`: their classes, with a scale of at least one.
-/

namespace Reckoner
namespace Expression

namespace Conversion

/-- One character fails as a closing parenthesis that nothing opened. -/
theorem step_failure
    {s : Conversion}
    {c : Char}
    {f : Failure}
    (h : s.step c = .error f) :
    f = .unexpectedClosing := by
  unfold step at h
  split_ifs at h
  · unfold closeGroup at h
    dsimp only at h
    split at h
    · cases h
    · exact (Except.error.inj h).symm
  · split at h <;> cases h

/-- So does a text. -/
theorem run_failure
    {s : Conversion}
    {cs : List Char}
    {f : Failure}
    (h : run s cs = .error f) :
    f = .unexpectedClosing := by
  induction cs generalizing s with
  | nil =>
      cases h
  | cons c cs ih =>
      rw [run] at h
      cases hstep : s.step c with
      | error g =>
          rw [hstep] at h
          cases h
          exact step_failure hstep
      | ok s' =>
          rw [hstep] at h
          exact ih h

/-- The end of a text fails as an opening parenthesis that nothing closes. -/
theorem finish_failure
    {s : Conversion}
    {f : Failure}
    (h : s.finish = .error f) :
    f = .unclosedOpening := by
  unfold finish at h
  dsimp only at h
  split at h
  · cases h
  · exact (Except.error.inj h).symm

end Conversion

/-- A conversion fails for its parentheses. -/
theorem toPostfix_failure
    {cs : List Char}
    {f : Failure}
    (h : toPostfix cs = .error f) :
    f = .unexpectedClosing ∨ f = .unclosedOpening := by
  unfold toPostfix at h
  split at h
  · next hrun =>
      cases h
      exact .inl (Conversion.run_failure hrun)
  · exact .inr (Conversion.finish_failure h)

/-- An evaluation fails for its parentheses, for the number of values that its tokens find, or for a
number of its postfix form. -/
theorem evaluate_failure_cases
    {p : Precision}
    {cs : List Char}
    {f : Failure}
    (h : (evaluate p cs).result = .error f) :
    (f = .unexpectedClosing ∨ f = .unclosedOpening) ∨
      ∃ tokens : List Token,
        toPostfix (insertProducts cs) = .ok tokens ∧
        (CountFailure tokens f ∨ NumberFailure p tokens f) := by
  unfold evaluate at h
  cases htokens : toPostfix (insertProducts cs) with
  | error g =>
      rw [htokens] at h
      cases h
      exact .inl (toPostfix_failure htokens)
  | ok tokens =>
      rw [htokens] at h
      exact .inr ⟨tokens, rfl, foldTokens_failure h⟩

/-- An evaluation fails for the form of its text, or for a number of its postfix form. -/
theorem evaluate_failure_cause
    {p : Precision}
    {cs : List Char}
    {f : Failure}
    (h : (evaluate p cs).result = .error f) :
    f.kind = .malformedExpression ∨
      ∃ tokens : List Token,
        toPostfix (insertProducts cs) = .ok tokens ∧ NumberFailure p tokens f := by
  rcases evaluate_failure_cases h with (rfl | rfl) | ⟨tokens, htokens, hcount | hnumber⟩
  · exact .inl rfl
  · exact .inl rfl
  · exact .inl hcount.kind
  · exact .inr ⟨tokens, htokens, hnumber⟩

/-- An exact numeral among some tokens meets the limit of texts, and the failure is that of the text. -/
structure TextFailure
    (p : Precision)
    (tokens : List Token)
    (f : Failure) : Prop where
  tooLong : ∃ digits : Option Nat, f = .integerLength digits
  numeral : ∃ cs : List Char, Token.operand cs ∈ tokens ∧ Numeral.MeetsTextLimit p cs

theorem TextFailure.kind
    {p : Precision}
    {tokens : List Token}
    {f : Failure}
    (h : TextFailure p tokens f) :
    f.kind = .invalidArgument := by
  obtain ⟨digits, rfl⟩ := h.tooLong
  rfl

/-- With few exact places no numeral meets the limit. -/
theorem TextFailure.lt_exactPlaces
    {p : Precision}
    {tokens : List Token}
    {f : Failure}
    (h : TextFailure p tokens f) :
    4281 < p.exactPlaces := by
  obtain ⟨cs, -, hlimit⟩ := h.numeral
  exact hlimit.lt_exactPlaces

/-- With a scale of at least one, the numbers of a postfix form fail for a zero divisor, for their range
or for the limit of texts. -/
theorem NumberFailure.fails
    {p : Precision}
    (hscale : 1 ≤ p.scale)
    {tokens : List Token}
    (hruns : ∀ cs, Token.operand cs ∈ tokens → OperandRun cs)
    {f : Failure}
    (h : NumberFailure p tokens f) :
    Operator.Fails f ∨ TextFailure p tokens f := by
  cases h with
  | @numeral cs hmem hnumeral hvalue =>
      obtain ⟨hexact, hread⟩ := Numeral.toValue_failure hscale hnumeral hvalue
      have hliteral := (hruns cs hmem).isLiteral hnumeral
      rcases Numeral.toRational_failure_kind hliteral hread with hkind | ⟨hlimit, htooLong⟩
      · exact .inl (.inr hkind)
      · exact .inr ⟨htooLong, cs, hmem, hliteral, hexact, hlimit⟩
  | operation _ hvalue =>
      exact .inl (Operator.apply_failure hvalue)

/-- With a scale of at least one, an evaluation fails for the form of its text, for a zero divisor, for
the range of a number or for the limit of texts. -/
theorem evaluate_failure_kind
    {p : Precision}
    (hscale : 1 ≤ p.scale)
    {cs : List Char}
    {f : Failure}
    (h : (evaluate p cs).result = .error f) :
    (f.kind = .malformedExpression ∨ f.kind = .divisionByZero ∨ f.kind = .fractionOverflow) ∨
      ∃ tokens : List Token,
        toPostfix (insertProducts cs) = .ok tokens ∧ TextFailure p tokens f := by
  rcases evaluate_failure_cause h with hmalformed | ⟨tokens, htokens, hnumber⟩
  · exact .inl (.inl hmalformed)
  · have hruns := fun ds (hds : Token.operand ds ∈ tokens) => operandRun_of_mem_toPostfix htokens hds
    rcases hnumber.fails hscale hruns with hfails | htext
    · exact .inl (.inr hfails)
    · exact .inr ⟨tokens, htokens, htext⟩

/-- With few exact places, the last is out of reach. -/
theorem evaluate_failure_kind_of_le
    {p : Precision}
    (hscale : 1 ≤ p.scale)
    (hplaces : p.exactPlaces ≤ 4281)
    {cs : List Char}
    {f : Failure}
    (h : (evaluate p cs).result = .error f) :
    f.kind = .malformedExpression ∨ f.kind = .divisionByZero ∨ f.kind = .fractionOverflow := by
  rcases evaluate_failure_kind hscale h with hkind | ⟨tokens, -, htext⟩
  · exact hkind
  · exact absurd htext.lt_exactPlaces (Int.not_lt.mpr hplaces)

end Expression
end Reckoner
