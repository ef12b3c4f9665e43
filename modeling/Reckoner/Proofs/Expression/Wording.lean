import Reckoner.Proofs.Expression.FailureCauses
import Reckoner.Proofs.Number.NumberText
import Reckoner.Proofs.Text.FileLines

/-!
# Wordings

The text that is evaluated may hold any character, line ends among them, but what is told of it stands
on one line.  A failure tells of its text only through tokens, numbers and counts: a token is an
operator or a run of digits and points, and the dividend of a quotient is written as a number.

**Results.**
* `evaluate_failure_onOneLine`: the wording of a failure of an evaluation stands on one line.
* `calculate_isNumberText`: the result of a calculation is written as a number.
-/

namespace Reckoner

/-- A number stands on one line. -/
theorem IsNumberText.onOneLine
    {cs : List Char}
    (h : IsNumberText cs) :
    Text.OnOneLine cs :=
  ⟨h.not_mem (by decide), h.not_mem (by decide)⟩

namespace Failure

/-- Whether the wording of a failure stands on one line. -/
def OnOneLine (f : Failure) : Prop :=
  Text.OnOneLine f.message.toList

theorem onOneLine_zeroDivisor
    {dividend : String}
    (h : IsNumberText dividend.toList) :
    (zeroDivisor (some dividend)).OnOneLine := by
  unfold OnOneLine message
  simp only [String.toList_append, Text.onOneLine_append]
  refine ⟨⟨?_, h.onOneLine⟩, ?_⟩ <;> simp [Text.OnOneLine]

theorem onOneLine_missingOperand
    {token : List Char}
    (h : Text.OnOneLine token) :
    (missingOperand (String.ofList token)).OnOneLine := by
  unfold OnOneLine message
  simp only [String.toList_append, Text.onOneLine_append, String.toList_ofList]
  refine ⟨⟨?_, h⟩, ?_⟩ <;> simp [Text.OnOneLine]

theorem onOneLine_of_parentheses
    {f : Failure}
    (h : f = .unexpectedClosing ∨ f = .unclosedOpening) :
    f.OnOneLine := by
  unfold OnOneLine message
  rcases h with rfl | rfl <;> simp [Text.OnOneLine]

theorem onOneLine_noValue :
    noValue.OnOneLine := by
  unfold OnOneLine message
  simp [Text.OnOneLine]

theorem onOneLine_valuesLeft
    (count : Nat) :
    (valuesLeft count).OnOneLine := by
  unfold OnOneLine message
  simp only [String.toList_append, Text.onOneLine_append]
  refine ⟨⟨?_, (IsNumberText.natRepr count).onOneLine⟩, ?_⟩ <;> simp [Text.OnOneLine]

/-- Where a number leaves its range, the wording tells of numbers only. -/
theorem onOneLine_of_fractionOverflow
    {f : Failure}
    (h : f.kind = .fractionOverflow) :
    f.OnOneLine := by
  cases f with
  | fractionRange num den =>
      unfold OnOneLine message
      simp only [String.toList_append, Text.onOneLine_append]
      have hnum := (IsNumberText.intRepr num).onOneLine
      have hden := (IsNumberText.natRepr den).onOneLine
      refine ⟨⟨⟨⟨?_, hnum⟩, ?_⟩, hden⟩, ?_⟩ <;> simp [Text.OnOneLine]
  | numeralRange digits =>
      unfold OnOneLine message
      simp only [String.toList_append, Text.onOneLine_append]
      refine ⟨⟨?_, (IsNumberText.intRepr digits).onOneLine⟩, ?_⟩ <;> simp [Text.OnOneLine]
  | _ =>
      cases h

/-- The limit of texts is told with numbers only. -/
theorem onOneLine_integerLength
    (digits : Option Nat) :
    (integerLength digits).OnOneLine := by
  unfold OnOneLine message
  simp only [String.toList_append, Text.onOneLine_append]
  have hlimit := (IsNumberText.natRepr longestInteger).onOneLine
  refine ⟨⟨⟨⟨?_, hlimit⟩, ?_⟩, ?_⟩, ?_⟩
  · simp [Text.OnOneLine]
  · simp [Text.OnOneLine]
  · cases digits with
    | none =>
        simp [Text.OnOneLine]
    | some count =>
        simp only [String.toList_append, Text.onOneLine_append]
        refine ⟨⟨?_, (IsNumberText.natRepr count).onOneLine⟩, ?_⟩ <;> simp [Text.OnOneLine]
  · simp [Text.OnOneLine]

end Failure

/-- What an operation refuses is told on one line. -/
theorem Operator.apply_onOneLine
    {op : Operator}
    {a b : Value}
    {f : Failure}
    (h : op.apply a b = .error f) :
    f.OnOneLine := by
  refine apply_failure_of_readings ?_ (fun d => Failure.onOneLine_zeroDivisor d.isNumberText) h
  intro x y g hg
  rcases exact_failure_cause hg with rfl | rfl
  · exact Failure.onOneLine_zeroDivisor x.isNumberText
  · exact Failure.onOneLine_of_fractionOverflow rfl

namespace Expression

variable {p : Precision}
variable {cs : List Char}

/-- A token of a postfix form stands on one line. -/
theorem Token.onOneLine
    {token : Token}
    (h : ∀ cs, token = .operand cs → OperandRun cs) :
    Text.OnOneLine token.text := by
  cases token with
  | operand cs =>
      exact ⟨(h cs rfl).not_mem (by decide), (h cs rfl).not_mem (by decide)⟩
  | operator op =>
      cases op <;> decide

theorem CountFailure.onOneLine
    {tokens : List Token}
    (hruns : ∀ cs, Token.operand cs ∈ tokens → OperandRun cs)
    {f : Failure}
    (h : CountFailure tokens f) :
    f.OnOneLine := by
  cases h with
  | missingOperand hmem =>
      refine Failure.onOneLine_missingOperand (Token.onOneLine ?_)
      rintro cs rfl
      exact hruns cs hmem
  | noValue =>
      exact Failure.onOneLine_noValue
  | valuesLeft count =>
      exact Failure.onOneLine_valuesLeft count

theorem NumberFailure.onOneLine
    (hscale : 1 ≤ p.scale)
    {tokens : List Token}
    (hruns : ∀ cs, Token.operand cs ∈ tokens → OperandRun cs)
    {f : Failure}
    (h : NumberFailure p tokens f) :
    f.OnOneLine := by
  cases h with
  | @numeral cs hmem hnumeral hvalue =>
      obtain ⟨-, hread⟩ := Numeral.toValue_failure hscale hnumeral hvalue
      have hliteral := (hruns cs hmem).isLiteral hnumeral
      rcases Numeral.toRational_failure_kind hliteral hread with hkind | ⟨-, digits, rfl⟩
      · exact Failure.onOneLine_of_fractionOverflow hkind
      · exact Failure.onOneLine_integerLength digits
  | operation _ hvalue =>
      exact Operator.apply_onOneLine hvalue

/-- The wording of a failure of an evaluation stands on one line. -/
theorem evaluate_failure_onOneLine
    (hscale : 1 ≤ p.scale)
    {f : Failure}
    (h : (evaluate p cs).result = .error f) :
    f.OnOneLine := by
  rcases evaluate_failure_cases h with hparentheses | ⟨tokens, htokens, hcount | hnumber⟩
  · exact Failure.onOneLine_of_parentheses hparentheses
  · exact hcount.onOneLine fun ds hds => operandRun_of_mem_toPostfix htokens hds
  · exact hnumber.onOneLine hscale fun ds hds => operandRun_of_mem_toPostfix htokens hds

theorem calculate_failure_onOneLine
    (hscale : 1 ≤ p.scale)
    {f : Failure}
    (h : (calculate p cs).result = .error f) :
    f.OnOneLine := by
  cases hresult : (evaluate p cs).result with
  | error g =>
      simp only [calculate, hresult] at h
      cases h
      exact evaluate_failure_onOneLine hscale hresult
  | ok v =>
      simp only [calculate, hresult] at h
      cases h

/-- The result of a calculation is written as a number. -/
theorem calculate_isNumberText
    {text : String}
    (h : (calculate p cs).result = .ok text) :
    IsNumberText text.toList := by
  cases hresult : (evaluate p cs).result with
  | error g =>
      simp only [calculate, hresult] at h
      cases h
  | ok v =>
      simp only [calculate, hresult] at h
      cases h
      exact v.isNumberText

end Expression
end Reckoner
