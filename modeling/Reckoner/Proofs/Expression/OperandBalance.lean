import Reckoner.Proofs.Expression.FailureCauses
import Reckoner.Proofs.Expression.ImpliedProducts

/-!
# The balance of operands

The operands of a tree are one more than its operations, so the tokens of a tree of numerals leave one
value more than they find.  An operand that is no numeral costs three values, the one that it does not
push and the two that are lost with it, and an operand that is missing costs one.  Nothing makes up
for either: tokens with such an operand never leave exactly one value.

**Results.**
* `Tree.balance_present`: the balance of the tokens of a tree.
* `isNumeral_of_folds`: where they leave one value, all operands are numerals.
* `evaluate_misspelt_numeral`: an expression with a misspelt numeral has no value.
-/

namespace Reckoner
namespace Expression

namespace Tree

/-- The tokens of a tree in post-order, without the operands that have no text. -/
def present (t : Tree) : List Token :=
  t.postorder.filter fun token => token ≠ .operand []

@[simp] theorem present_operation
    (op : Operator)
    (l r : Tree) :
    (operation op l r).present = l.present ++ r.present ++ [.operator op] := by
  simp [present, postorder]

/-- Where all operands have a text, nothing is left out. -/
theorem present_eq_postorder
    {t : Tree}
    (h : ∀ cs ∈ t.numerals, cs ≠ []) :
    t.present = t.postorder := by
  induction t with
  | numeral cs =>
      have hcs : cs ≠ [] :=
        h cs (by simp [numerals])
      simp [present, postorder, hcs]
  | operation op l r ihl ihr =>
      obtain ⟨hl, hr⟩ := forall_numerals_operation.mp h
      rw [present_operation, postorder, ihl hl, ihr hr]

/-- The number of values that an operand lacks to the one of a numeral. -/
def lack (cs : List Char) : Nat :=
  if cs = [] then 1 else if Numeral.isNumeral cs then 0 else 3

/-- The number of values that the operands of a tree lack. -/
def deficit (t : Tree) : Nat :=
  (t.numerals.map lack).sum

/-- The tokens of a tree add one value, less what the operands lack. -/
theorem balance_present
    (t : Tree) :
    balance t.present = 1 - (t.deficit : Int) := by
  induction t with
  | numeral cs =>
      by_cases hnil : cs = []
      · simp [present, postorder, deficit, numerals, lack, hnil]
      · cases hcs : Numeral.isNumeral cs <;>
          simp [present, postorder, deficit, numerals, lack, Token.balance, hnil, hcs]
  | operation op l r ihl ihr =>
      have hdeficit : (operation op l r).deficit = l.deficit + r.deficit := by
        simp [deficit, numerals]
      rw [present_operation, balance_append, balance_append, ihl, ihr, hdeficit]
      simp [Token.balance]
      omega

/-- Operands that lack nothing are numerals. -/
theorem isNumeral_of_deficit_eq_zero
    {t : Tree}
    (h : t.deficit = 0) :
    ∀ cs ∈ t.numerals, Numeral.isNumeral cs = true := by
  intro cs hcs
  have hlack : lack cs = 0 :=
    List.sum_eq_zero_iff.mp h _ (List.mem_map_of_mem hcs)
  unfold lack at hlack
  split_ifs at hlack with hnil hnumeral
  exact hnumeral

end Tree

/-- Where the tokens of a tree leave one value, all its operands are numerals. -/
theorem isNumeral_of_folds
    {p : Precision}
    {t : Tree}
    {losses : List Event}
    {v : Value}
    (h : Folds p [] t.present losses [v]) :
    ∀ cs ∈ t.numerals, Numeral.isNumeral cs = true := by
  have hlength := h.length_eq
  rw [t.balance_present] at hlength
  refine Tree.isNumeral_of_deficit_eq_zero ?_
  simp only [List.length_singleton, List.length_nil, Nat.cast_one, Nat.cast_zero, zero_add] at hlength
  omega

/-- An expression in which a run of digits and points stands for a numeral and is none has no value: it
is malformed, unless another numeral or an operation fails before, an exact numeral of thousands of
places perhaps for the limit of texts.  And this although the fold passes over such a run, with the loss
of two values and one event for it. -/
theorem evaluate_misspelt_numeral
    {cs : List Char} {t : Tree}
    (d : Derives OperandRun NoGap .expression cs t)
    {ds : List Char}
    (hds : ds ∈ t.numerals)
    (hmisspelt : ¬ Numeral.IsLiteral ds)
    (p : Precision)
    (hscale : 1 ≤ p.scale) :
    (∃ f : Failure,
      (evaluate p cs).result = .error f ∧
      ((f.kind = .malformedExpression ∨
          f.kind = .divisionByZero ∨
          f.kind = .fractionOverflow) ∨
        f.kind = .invalidArgument ∧ ∃ es ∈ t.numerals, Numeral.MeetsTextLimit p es)) ∧
    ∀ (left right : Value) (stack : List Value) (rest : List Token),
      foldTokens p (right :: left :: stack) (.operand ds :: rest) =
        (foldTokens p stack rest).after (.discarded ds left right) := by
  have hrun : OperandRun ds :=
    d.leaf_of_mem_numerals ds hds
  have hnumeral : Numeral.isNumeral ds = false := by
    rw [Bool.eq_false_iff]
    exact mt (Numeral.isNumeral_iff_isLiteral (hrun.not_mem (by decide))).mp hmisspelt
  have hwritten : Derives OperandRun NoGap .expression (insertProducts cs) t :=
    Derives.written (fun _ => id) (d.relabel d.leaf_of_mem_numerals fun _ _ => False.elim)
  have hconverted := toPostfix_of_derives (fun _ => id) hwritten
  refine ⟨?_, foldTokens_lost hnumeral⟩
  cases hresult : (evaluate p cs).result with
  | error f =>
      refine ⟨f, rfl, (evaluate_failure_kind hscale hresult).imp_right ?_⟩
      rintro ⟨tokens, htokens, htext⟩
      cases hconverted.symm.trans htokens
      obtain ⟨es, hes, hlimit⟩ := htext.numeral
      exact ⟨htext.kind, es, Tree.operand_mem_postorder hes, hlimit⟩
  | ok v =>
      -- a value would make numerals of all operands, by their number
      exfalso
      obtain ⟨tokens, losses, htokens, hfolds, -⟩ := folds_of_evaluate hresult
      cases hconverted.symm.trans htokens
      rw [← Tree.present_eq_postorder fun es hes => (d.leaf_of_mem_numerals es hes).1] at hfolds
      have := isNumeral_of_folds hfolds ds hds
      simp [hnumeral] at this

/-- Two misspelt numerals at different depths, with a product and a difference around them. -/
theorem evaluate_misspelt_numeral_nested :
    ∃ t : Tree,
      Derives OperandRun NoGap .expression "5+(6-1.2.3)*.".toList t ∧
      "1.2.3".toList ∈ t.numerals ∧
      ¬ Numeral.IsLiteral "1.2.3".toList ∧
      ∃ f : Failure,
        (evaluate {} "5+(6-1.2.3)*.".toList).result = .error f ∧
        (f.kind = .malformedExpression ∨
          f.kind = .divisionByZero ∨
          f.kind = .fractionOverflow) := by
  have run :
      ∀ ds : List Char, ds ≠ [] → ds.all Conversion.isOperandChar = true →
        Derives OperandRun NoGap .factor ds (.numeral ds) := by
    intro ds hne hds
    exact .numeral ⟨hne, List.all_eq_true.mp hds⟩
  have five := run ['5'] (by decide) (by decide)
  have six := run ['6'] (by decide) (by decide)
  have misspelt := run "1.2.3".toList (by decide) (by decide)
  have point := run ['.'] (by decide) (by decide)
  have difference := Derives.sum .minus rfl (.ofTerm (.ofFactor six)) (.ofFactor misspelt)
  have product := Derives.product .times rfl (.ofFactor (.group difference)) point
  have sentence := Derives.sum .plus rfl (.ofTerm (.ofFactor five)) product
  have hmisspelt : ¬ Numeral.IsLiteral "1.2.3".toList := by
    rw [← Numeral.isPlain_iff_isLiteral]
    decide
  refine ⟨_, sentence, by decide, hmisspelt, ?_⟩
  obtain ⟨f, hf, hkind | ⟨-, es, -, hlimit⟩⟩ :=
    (evaluate_misspelt_numeral sentence (by decide) hmisspelt {} (by decide)).1
  · exact ⟨f, hf, hkind⟩
  · exact absurd hlimit.lt_exactPlaces (by decide)

/-- A numeral without a value at the start of a postfix form is all that is looked at. -/
theorem evaluate_failure_of_first
    {p : Precision}
    {cs ds : List Char}
    {rest : List Token}
    {f : Failure}
    (hconverted : toPostfix (insertProducts cs) = .ok (.operand ds :: rest))
    (hnumeral : Numeral.isNumeral ds = true)
    (hvalue : Numeral.toValue p ds = .error f) :
    (evaluate p cs).result = .error f := by
  simp [evaluate, hconverted, foldTokens, hnumeral, hvalue, Outcome.after, Outcome.plain]

/-- After a numeral that meets the limit of texts, a misspelt one is not come to. -/
theorem evaluate_misspelt_after
    {p : Precision}
    (hscale : 1 ≤ p.scale)
    {cs : List Char}
    (h : Numeral.MeetsTextLimit p cs) :
    ∃ t : Tree,
      Derives OperandRun NoGap .expression (cs ++ ['+', '.']) t ∧
      ['.'] ∈ t.numerals ∧
      ∃ f : Failure,
        (evaluate p (cs ++ ['+', '.'])).result = .error f ∧
        f.kind = .invalidArgument := by
  have numeral : Derives OperandRun NoGap .factor cs (.numeral cs) :=
    .numeral (operandRun_of_isLiteral h.isLiteral)
  have point : Derives OperandRun NoGap .factor ['.'] (.numeral ['.']) :=
    .numeral ⟨List.cons_ne_nil _ _, List.forall_mem_singleton.mpr rfl⟩
  have sentence : Derives OperandRun NoGap .expression (cs ++ ['+', '.'])
      (.operation .plus (.numeral cs) (.numeral ['.'])) :=
    .sum .plus rfl (.ofTerm (.ofFactor numeral)) (.ofFactor point)
  have hwritten :=
    Derives.written (fun _ => id) (sentence.relabel sentence.leaf_of_mem_numerals fun _ _ => False.elim)
  obtain ⟨digits, hvalue⟩ := h.toValue_eq hscale
  refine ⟨_, sentence, by simp [Tree.numerals], .integerLength digits, ?_, rfl⟩
  exact evaluate_failure_of_first (toPostfix_of_derives (fun _ => id) hwritten)
    (Numeral.isNumeral_of_isLiteral h.isLiteral) hvalue

/-- So it is after a numeral that is exact and too fine: the failure is none of the three. -/
theorem evaluate_misspelt_after_fine :
    ∃ t : Tree,
      Derives OperandRun NoGap .expression (Numeral.fine 4300 ++ ['+', '.']) t ∧
      ['.'] ∈ t.numerals ∧
      ¬ Numeral.IsLiteral ['.'] ∧
      ∃ f : Failure,
        (evaluate ⟨10, 5000⟩ (Numeral.fine 4300 ++ ['+', '.'])).result = .error f ∧
        f.kind = .invalidArgument := by
  have hmisspelt : ¬ Numeral.IsLiteral ['.'] := by
    rw [← Numeral.isPlain_iff_isLiteral]
    decide
  have hlimit : Numeral.MeetsTextLimit ⟨10, 5000⟩ (Numeral.fine 4300) :=
    Numeral.meetsTextLimit_fine (longestInteger_eq.trans_le (by decide)) (by decide)
  obtain ⟨t, hsentence, hmem, hfailure⟩ := evaluate_misspelt_after (by decide) hlimit
  exact ⟨t, hsentence, hmem, hmisspelt, hfailure⟩

end Expression
end Reckoner
