import Reckoner.Proofs.Expression.ImpliedProducts
import Reckoner.Proofs.Expression.PostfixTokens
import Reckoner.Proofs.Expression.TokenFold

/-!
# Groups

Work inside parentheses never reaches what lies below it: a release of waiting operators stops at the
opening parenthesis, and the values below a fold stay where they are.  So any text with a value, also
one that is no expression of the grammar, can stand in parentheses as an operand.  It contributes its
value, and its losses are those that it has alone.

**Results.**
* `Conversion.run_inGroup`: a run of a conversion is the same run inside a group.
* `toPostfix_grouped`, `toPostfix_groups`: the postfix forms of a group and of two groups.
* `evaluate_grouped`, `evaluate_groups`: their evaluations.
* `evaluate_compositional`: an evaluation with values in parentheses as its operands.
-/

namespace Reckoner
namespace Expression

/-- A text in parentheses. -/
def grouped (cs : List Char) : List Char :=
  '(' :: (cs ++ [')'])

namespace Conversion

/-- A conversion inside a group, with the output and the stack from before the group. -/
def inGroup
    (s : Conversion)
    (output : List Token)
    (below : List Waiting) : Conversion :=
  ⟨s.output ++ output, s.operand, s.stack ++ .opening :: below⟩

section Groups

variable (output : List Token)
variable (below : List Waiting)

/-- A release inside a group stops at its opening parenthesis at the latest. -/
theorem release_inGroup
    (rank : Nat)
    (written : List Token)
    (stack : List Waiting) :
    release rank (written ++ output) (stack ++ .opening :: below) =
      ((release rank written stack).1 ++ output,
        (release rank written stack).2 ++ .opening :: below) := by
  induction stack generalizing written with
  | nil =>
      simp [release]
  | cons w stack ih =>
      cases w with
      | opening =>
          simp [release]
      | operator op =>
          by_cases hop : rank ≤ op.rank
          · simpa [release, hop] using ih (.operator op :: written)
          · simp [release, hop]

theorem flush_inGroup
    (s : Conversion) :
    (s.inGroup output below).flush = s.flush.inGroup output below := by
  obtain ⟨written, operand, stack⟩ := s
  cases operand <;> rfl

theorem putOperator_inGroup
    (s : Conversion)
    (op : Operator) :
    (s.inGroup output below).putOperator op = (s.putOperator op).inGroup output below := by
  unfold putOperator
  rw [flush_inGroup]
  simp only [inGroup, release_inGroup, List.cons_append]

variable {s s' : Conversion}

theorem closeGroup_inGroup
    (h : s.closeGroup = .ok s') :
    (s.inGroup output below).closeGroup = .ok (s'.inGroup output below) := by
  obtain ⟨written, stack, hrelease, rfl⟩ := closeGroup_eq_ok h
  unfold closeGroup
  rw [flush_inGroup]
  simp [inGroup, release_inGroup, hrelease]

/-- One character inside a group. -/
theorem step_inGroup
    {c : Char}
    (h : s.step c = .ok s') :
    (s.inGroup output below).step c = .ok (s'.inGroup output below) := by
  rcases step_cases h with
    ⟨hc, rfl⟩ | ⟨rfl, rfl⟩ | ⟨rfl, hclose⟩ | ⟨op, rfl, rfl⟩ | ⟨hoperand, hopening, hclosing, hnone, rfl⟩
  · exact step_operandChar _ hc
  · rw [step_opening, openGroup, openGroup, flush_inGroup]
    rfl
  · exact closeGroup_inGroup output below hclose
  · rw [step_symbol, putOperator_inGroup]
  · simp [step, hoperand, hopening, hclosing, hnone]

/-- A text inside a group. -/
theorem run_inGroup
    {cs : List Char}
    (h : run s cs = .ok s') :
    run (s.inGroup output below) cs = .ok (s'.inGroup output below) := by
  induction cs generalizing s with
  | nil =>
      cases h
      rfl
  | cons c cs ih =>
      rw [run] at h ⊢
      cases hstep : s.step c with
      | error f =>
          rw [hstep] at h
          cases h
      | ok s₁ =>
          rw [hstep] at h
          rw [step_inGroup output below hstep]
          exact ih h

/-- What ends a text closes the group around it. -/
theorem closeGroup_of_finish
    {tokens : List Token}
    (h : s.finish = .ok tokens) :
    (s.inGroup output below).closeGroup = .ok ⟨tokens.reverse ++ output, [], below⟩ := by
  obtain ⟨written, hrelease, rfl⟩ := finish_eq_ok h
  unfold closeGroup
  rw [flush_inGroup]
  simp [inGroup, release_inGroup, hrelease]

/-- A group writes the postfix form of its text and leaves the stack as it was. -/
theorem run_grouped
    {cs : List Char}
    {tokens : List Token}
    (h : toPostfix cs = .ok tokens) :
    run ⟨output, [], below⟩ (grouped cs) = .ok ⟨tokens.reverse ++ output, [], below⟩ := by
  unfold toPostfix at h
  cases hrun : run {} cs with
  | error f =>
      rw [hrun] at h
      cases h
  | ok s =>
      rw [hrun] at h
      rw [grouped, run, step_opening]
      -- after the opening parenthesis the conversion is the first one, in a group
      change run (inGroup {} output below) (cs ++ [')']) = _
      rw [run_append_of_run (run_inGroup output below hrun), run, step_closing,
        closeGroup_of_finish output below h]
      rfl

end Groups

end Conversion

section Postfix

variable {cs ds : List Char}
variable {before after : List Token}

/-- The postfix form of a group is that of its text. -/
theorem toPostfix_grouped
    (h : toPostfix cs = .ok before) :
    toPostfix (grouped cs) = .ok before := by
  rw [toPostfix, Conversion.run_grouped [] [] h]
  simp [Conversion.finish, Conversion.flush, Conversion.release]

/-- The postfix form of an operation on two groups. -/
theorem toPostfix_groups
    (op : Operator)
    (hcs : toPostfix cs = .ok before)
    (hds : toPostfix ds = .ok after) :
    toPostfix (grouped cs ++ op.symbol :: grouped ds) =
      .ok (before ++ after ++ [.operator op]) := by
  have hleft := Conversion.run_grouped [] [] hcs
  have hright := Conversion.run_grouped (before.reverse ++ []) [.operator op] hds
  have hput :
      Conversion.putOperator op ⟨before.reverse ++ [], [], []⟩ =
        ⟨before.reverse ++ [], [], [.operator op]⟩ := by
    simp [Conversion.putOperator, Conversion.flush, Conversion.release]
  rw [toPostfix, Conversion.run_append_of_run hleft, Conversion.run, Conversion.step_symbol, hput]
  dsimp only
  rw [hright]
  simp [Conversion.finish, Conversion.flush, Conversion.release]

end Postfix

section Evaluation

variable {p : Precision}
variable {cs ds : List Char}
variable {a b : Value}

theorem insertProducts_grouped
    (cs : List Char) :
    insertProducts (grouped cs) = grouped (insertProducts cs) :=
  insertProducts_group cs

/-- A group of a text with a value is evaluated as the text. -/
theorem evaluate_grouped
    (ha : (evaluate p cs).result = .ok a) :
    evaluate p (grouped cs) = evaluate p cs := by
  obtain ⟨tokens, losses, htokens, -, -⟩ := folds_of_evaluate ha
  rw [evaluate, evaluate, insertProducts_grouped, toPostfix_grouped htokens, htokens]

/-- An operation on two groups. -/
theorem evaluate_groups
    (op : Operator)
    (ha : (evaluate p cs).result = .ok a)
    (hb : (evaluate p ds).result = .ok b)
    {es : List Char}
    (hes : insertProducts es = grouped (insertProducts cs) ++ op.symbol :: grouped (insertProducts ds)) :
    (evaluate p es).result = op.apply a b ∧
    (evaluate p es).warnings = (evaluate p cs).warnings ++ (evaluate p ds).warnings := by
  obtain ⟨before, losses, hbefore, hfolds, hcs⟩ := folds_of_evaluate ha
  obtain ⟨after, losses', hafter, hfolds', hds⟩ := folds_of_evaluate hb
  have hright : Folds p [a] after losses' [b, a] :=
    hfolds'.above [a]
  have hlast : foldTokens p [b, a] [.operator op] = .plain (op.apply a b) := by
    rw [foldTokens_operator]
    cases op.apply a b <;> rfl
  have hfold :
      foldTokens p [] (before ++ after ++ [.operator op]) =
        ⟨losses ++ losses', op.apply a b⟩ := by
    rw [List.append_assoc, hfolds.foldTokens_append, hright.foldTokens_append, hlast]
    simp [Outcome.plain]
  have hevaluate :
      evaluate p es =
        ⟨.converted (before ++ after ++ [.operator op]) :: (losses ++ losses'), op.apply a b⟩ := by
    rw [evaluate, hes, toPostfix_groups op hbefore hafter]
    dsimp only
    rw [hfold]
    rfl
  rw [hevaluate, hcs, hds]
  refine ⟨rfl, ?_⟩
  simp [Outcome.warnings, Event.isWarning]

/-- A text with a value can stand in parentheses for that value: alone, on both sides of an operator,
and side by side with another where a product is implied.  What is lost is lost in the order of the
texts. -/
theorem evaluate_compositional
    (ha : (evaluate p cs).result = .ok a)
    (hb : (evaluate p ds).result = .ok b) :
    ((evaluate p (grouped cs)).result = .ok a ∧
      (evaluate p (grouped cs)).warnings = (evaluate p cs).warnings) ∧
    (∀ op : Operator,
      (evaluate p (grouped cs ++ op.symbol :: grouped ds)).result = op.apply a b ∧
      (evaluate p (grouped cs ++ op.symbol :: grouped ds)).warnings =
        (evaluate p cs).warnings ++ (evaluate p ds).warnings) ∧
    ((evaluate p (grouped cs ++ grouped ds)).result = Operator.times.apply a b ∧
      (evaluate p (grouped cs ++ grouped ds)).warnings =
        (evaluate p cs).warnings ++ (evaluate p ds).warnings) := by
  refine ⟨?_, ?_, ?_⟩
  · rw [evaluate_grouped ha]
    exact ⟨ha, rfl⟩
  · intro op
    refine evaluate_groups op ha hb ?_
    rw [insertProducts_chain, insertProducts_grouped, insertProducts_grouped]
  · refine evaluate_groups .times ha hb ?_
    have hclosing : (grouped cs).getLast? = some ')' := by
      rw [grouped, ← List.cons_append, List.getLast?_concat]
    have hgap : ImpliedBetween (grouped cs) (grouped ds) :=
      ⟨')', '(', hclosing, rfl, by decide⟩
    rw [insertProducts_implied hgap, insertProducts_grouped, insertProducts_grouped]
    rfl

/-- A text that loses two of its values, less one whose sum stands after its operands. -/
theorem evaluate_compositional_losses :
    ∃ a b : Value,
      (evaluate {} "7 (5) (6) (1.2.3)".toList).result = .ok a ∧
      (evaluate {} "1 (2)+".toList).result = .ok b ∧
      (evaluate {} "(7 (5) (6) (1.2.3))-(1 (2)+)".toList).result = Operator.minus.apply a b ∧
      (evaluate {} "(7 (5) (6) (1.2.3))-(1 (2)+)".toList).warnings =
        ["Unrecognized token '1.2.3': operands 5 and 6 discarded"] := by
  have hleft :
      (evaluate {} "7 (5) (6) (1.2.3)".toList).result =
        .ok ⟨.exact ⟨7, 1, by decide, by decide, by decide⟩, 10, by decide⟩ := by
    decide +kernel
  have hright :
      (evaluate {} "1 (2)+".toList).result =
        .ok ⟨.exact ⟨3, 1, by decide, by decide, by decide⟩, 10, by decide⟩ := by
    decide +kernel
  obtain ⟨hresult, hwarnings⟩ := (evaluate_compositional hleft hright).2.1 .minus
  exact ⟨_, _, hleft, hright, hresult, hwarnings.trans (by decide +kernel)⟩

end Evaluation

end Expression
end Reckoner
