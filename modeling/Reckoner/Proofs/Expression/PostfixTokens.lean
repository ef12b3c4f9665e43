import Reckoner.Proofs.Expression.OperatorStack

/-!
# Tokens of a conversion

From any text whatever, a conversion writes only operators and runs of digits and points.  So its
tokens can be written one after the other with a blank between two and read back, and evaluating the
tokens is evaluating the text that shows them.

**Results.**
* `run_wellFormed`: every step of a conversion keeps to such tokens.
* `operandRun_of_mem_toPostfix`: the operands of a postfix form are runs of digits and points.
* `readPostfix_showPostfix`: the tokens can be read back from their text.
* `evaluate_eq_evaluatePostfix`: an evaluation may pass through that text.
-/

namespace Reckoner

namespace Text

/-- The pieces of a text are those of the library's split. -/
theorem pieces_eq_splitOn
    (sep : Char)
    (cs : List Char) :
    pieces sep cs = cs.splitOn sep := by
  induction cs with
  | nil =>
      rfl
  | cons c cs ih =>
      rw [pieces, List.splitOn, List.splitOnP_cons_eq_if_modifyHead]
      by_cases hc : c = sep
      · simp [hc, ih, List.splitOn]
      · obtain ⟨piece, more, hpieces⟩ := List.exists_cons_of_ne_nil (pieces_ne_nil sep cs)
        rw [if_neg hc, if_neg (by simpa using hc), hpieces]
        rw [ih, List.splitOn] at hpieces
        rw [hpieces]
        rfl

/-- Words without the separator can be read back from the text that joins them. -/
theorem fullPieces_intercalate
    {sep : Char}
    {words : List (List Char)}
    (h : ∀ word ∈ words, word ≠ [] ∧ sep ∉ word) :
    fullPieces sep ([sep].intercalate words) = words := by
  cases words with
  | nil =>
      rfl
  | cons word rest =>
      rw [fullPieces, pieces_eq_splitOn,
        List.splitOn_intercalate sep (fun w hw => (h w hw).2) (List.cons_ne_nil _ _),
        List.filter_eq_self]
      intro w hw
      simpa using (h w hw).1

end Text

namespace Expression
namespace Conversion

/-- Every operand is a run of digits and points, also the one that is being read. -/
structure WellFormed (s : Conversion) : Prop where
  output : ∀ cs, Token.operand cs ∈ s.output → OperandRun cs
  operand : ∀ c ∈ s.operand, isOperandChar c = true

/-- A flush writes such a run. -/
theorem WellFormed.flush
    {s : Conversion}
    (h : s.WellFormed) :
    s.flush.WellFormed := by
  obtain ⟨output, operand, stack⟩ := s
  cases operand with
  | nil =>
      exact h
  | cons c rest =>
      refine ⟨?_, by simp⟩
      intro cs hcs
      rcases List.mem_cons.mp hcs with hcs | hcs
      · have hrun : cs = (c :: rest).reverse := by
          simpa using hcs
        rw [hrun]
        refine ⟨by simp, ?_⟩
        intro d hd
        exact h.operand d (List.mem_reverse.mp hd)
      · exact h.output cs hcs

/-- A release writes operators only. -/
theorem operand_mem_of_release
    {rank : Nat}
    {output output' : List Token}
    {stack stack' : List Waiting}
    (h : release rank output stack = (output', stack'))
    {cs : List Char}
    (hcs : Token.operand cs ∈ output') :
    Token.operand cs ∈ output := by
  obtain ⟨released, rest, -, hrelease, -, -⟩ := exists_released rank output stack
  rw [hrelease] at h
  cases h
  simpa using hcs

/-- One character keeps a conversion well-formed. -/
theorem step_wellFormed
    {s s' : Conversion}
    {c : Char}
    (h : s.WellFormed)
    (hstep : s.step c = .ok s') :
    s'.WellFormed := by
  rcases step_cases hstep with ⟨hc, rfl⟩ | ⟨-, rfl⟩ | ⟨-, hclose⟩ | ⟨op, -, rfl⟩ | ⟨-, -, -, -, rfl⟩
  · refine ⟨h.output, ?_⟩
    intro d hd
    rcases List.mem_cons.mp hd with rfl | hd
    · exact hc
    · exact h.operand d hd
  · exact ⟨h.flush.output, h.flush.operand⟩
  · obtain ⟨output, stack, hrelease, rfl⟩ := closeGroup_eq_ok hclose
    refine ⟨?_, by simp⟩
    intro cs hcs
    exact h.flush.output cs (operand_mem_of_release hrelease hcs)
  · refine ⟨?_, by simp [putOperator]⟩
    intro cs hcs
    exact h.flush.output cs (operand_mem_of_release rfl hcs)
  · exact h

/-- So does a text. -/
theorem run_wellFormed
    {s s' : Conversion}
    {cs : List Char}
    (h : s.WellFormed)
    (hrun : run s cs = .ok s') :
    s'.WellFormed :=
  run_invariant (P := fun s _ => s.WellFormed) (fun _ _ _ _ hs hstep => step_wellFormed hs hstep) h
    hrun

/-- The tokens at the end of a text. -/
theorem finish_eq_ok
    {s : Conversion}
    {tokens : List Token}
    (h : s.finish = .ok tokens) :
    ∃ output : List Token,
      release 0 s.flush.output s.stack = (output, []) ∧
      tokens = output.reverse := by
  unfold finish at h
  dsimp only at h
  rw [flush_stack] at h
  split at h
  · next output heq =>
      exact ⟨output, heq, (Except.ok.inj h).symm⟩
  · cases h

end Conversion

open Conversion

/-- Every operand of a postfix form is a run of digits and points. -/
theorem operandRun_of_mem_toPostfix
    {cs ds : List Char}
    {tokens : List Token}
    (h : toPostfix cs = .ok tokens)
    (hds : Token.operand ds ∈ tokens) :
    OperandRun ds := by
  unfold toPostfix at h
  cases hrun : Conversion.run {} cs with
  | error f =>
      rw [hrun] at h
      cases h
  | ok s =>
      rw [hrun] at h
      have hs : s.WellFormed :=
        run_wellFormed ⟨by simp, by simp⟩ hrun
      obtain ⟨output, hrelease, rfl⟩ := finish_eq_ok h
      exact hs.flush.output ds (operand_mem_of_release hrelease (List.mem_reverse.mp hds))

/-- The text of an operator is its symbol. -/
theorem eq_symbol_of_ofText?
    {cs : List Char}
    {op : Operator}
    (h : Operator.ofText? cs = some op) :
    cs = [op.symbol] := by
  unfold Operator.ofText? at h
  split at h
  · rw [Operator.symbol_of_ofChar? h]
  · cases h

/-- A run of digits and points is not the symbol of an operator. -/
theorem OperandRun.ofText?_eq_none
    {cs : List Char}
    (h : OperandRun cs) :
    Operator.ofText? cs = none := by
  by_contra hsome
  obtain ⟨op, hop⟩ := Option.ne_none_iff_exists'.mp hsome
  rw [eq_symbol_of_ofText? hop] at h
  exact h.not_mem (by cases op <;> decide) List.mem_cons_self

/-- Tokens are read back from their texts, where no operand is the symbol of an operator. -/
theorem map_ofWord_text
    {tokens : List Token}
    (h : ∀ cs, Token.operand cs ∈ tokens → Operator.ofText? cs = none) :
    (tokens.map Token.text).map Token.ofWord = tokens := by
  rw [List.map_map]
  conv_rhs => rw [← List.map_id tokens]
  refine List.map_congr_left ?_
  rintro (cs | op) htoken
  · simp [Token.text, Token.ofWord, h cs htoken]
  · simp [Token.text, Token.ofWord, Operator.ofText?, Operator.ofChar?_symbol]

/-- The tokens of a postfix form are read back from their text. -/
theorem readPostfix_showPostfix
    {tokens : List Token}
    (h : ∀ cs, Token.operand cs ∈ tokens → OperandRun cs) :
    readPostfix (showPostfix tokens) = tokens := by
  have hwords : ∀ word ∈ tokens.map Token.text, word ≠ [] ∧ ' ' ∉ word := by
    intro word hword
    obtain ⟨token, htoken, rfl⟩ := List.mem_map.mp hword
    cases token with
    | operator op =>
        cases op <;> simp [Token.text, Operator.symbol]
    | operand cs =>
        exact ⟨(h cs htoken).1, (h cs htoken).not_mem (by decide)⟩
  rw [readPostfix, showPostfix, Text.fullPieces_intercalate hwords]
  exact map_ofWord_text fun cs hcs => (h cs hcs).ofText?_eq_none

/-- An evaluation may pass through the text of the postfix form. -/
theorem evaluate_eq_evaluatePostfix
    (p : Precision)
    (cs : List Char) :
    evaluate p cs =
      match toPostfix (insertProducts cs) with
      | .error f => .plain (.error f)
      | .ok tokens => (evaluatePostfix p (showPostfix tokens)).after (.converted tokens) := by
  unfold evaluate
  cases htokens : toPostfix (insertProducts cs) with
  | error f =>
      rfl
  | ok tokens =>
      dsimp only
      rw [evaluatePostfix,
        readPostfix_showPostfix fun ds hds => operandRun_of_mem_toPostfix htokens hds]

end Expression
end Reckoner
