import Mathlib.Data.List.Count
import Reckoner.Proofs.Expression.PostfixTrees

/-!
# What a conversion conserves

A conversion carries its text in three places: the tokens it has written, the operand it is reading, and
the operators that wait.  An operand is written at four different places of the conversion, operators
are written by three different loops, and the text may be of any form.  Still nothing is lost and nothing
made up on the way.  The operands of a postfix form are the literals of its text in their order, each
operator is there as often as in the text, and the parentheses are gone.

**Results.**
* `literals_append_boundary`, `literals_append_ignored`: literals by the characters of a text.
* `Conversion.Keeps`: what a conversion has taken from its text, with what remains of it.
* `Conversion.Keeps.step`: one character moves nothing out of sight.
* `toPostfix_conserves`: the tokens of a postfix form, as they are written.
-/

namespace Reckoner
namespace Expression

open Conversion

/-- Whether a character is a parenthesis or the symbol of an operator. -/
def isBoundary (c : Char) : Bool :=
  c == '(' || c == ')' || (Operator.ofChar? c).isSome

/-- The digits and points between one boundary of a text and the next. -/
def literalPieces (cs : List Char) : List (List Char) :=
  (cs.splitOnP isBoundary).map fun piece => piece.filter isOperandChar

/-- The literals of a text: wherever digits or points stand between two boundaries, all of them. -/
def literals (cs : List Char) : List (List Char) :=
  (literalPieces cs).filter (· ≠ [])

/-- The texts of the operands among tokens. -/
def operandTexts (tokens : List Token) : List (List Char) :=
  tokens.filterMap fun
    | .operand cs => some cs
    | .operator _ => none

section Literals

variable {cs : List Char} {c : Char}

theorem isBoundary_of_isOperandChar
    (h : isOperandChar c = true) :
    isBoundary c = false := by
  have hne :
      ∀ d : Char, isOperandChar d = false → c ≠ d := by
    rintro d hd rfl
    rw [h] at hd
    cases hd
  have hnone : Operator.ofChar? c = none := by
    cases hop : Operator.ofChar? c with
    | none =>
        rfl
    | some op =>
        refine absurd (Operator.symbol_of_ofChar? hop).symm (hne _ ?_)
        cases op <;> rfl
  simp [isBoundary, hnone, hne '(' rfl, hne ')' rfl]

theorem isBoundary_symbol
    (op : Operator) :
    isBoundary op.symbol = true := by
  simp [isBoundary, Operator.ofChar?_symbol]

theorem symbol_beq_symbol
    (op op' : Operator) :
    (op.symbol == op'.symbol) = (Waiting.operator op == Waiting.operator op') := by
  cases op <;> cases op' <;> rfl

theorem literalPieces_cons
    (c : Char)
    (cs : List Char) :
    literalPieces (c :: cs) =
      if isBoundary c then [] :: literalPieces cs
      else if isOperandChar c then (literalPieces cs).modifyHead (List.cons c)
      else literalPieces cs := by
  rw [literalPieces, List.splitOnP_cons_eq_if_modifyHead]
  split_ifs with hboundary hoperand
  · rfl
  · rw [literalPieces]
    cases cs.splitOnP isBoundary <;> simp [hoperand]
  · rw [literalPieces]
    cases cs.splitOnP isBoundary <;> simp [hoperand]

/-- A boundary ends a literal. -/
theorem literals_append_boundary
    (h : isBoundary c = true)
    (cs rest : List Char) :
    literals (cs ++ c :: rest) = literals cs ++ literals rest := by
  simp [literals, literalPieces, List.splitOnP_append_cons cs rest h]

/-- Digits and points alone are one literal, if there are any. -/
theorem literals_of_operandChars
    (h : ∀ c ∈ cs, isOperandChar c = true) :
    literals cs = [cs].filter (· ≠ []) := by
  have hsplit : cs.splitOnP isBoundary = [cs] :=
    List.splitOnP_eq_singleton fun c hc => isBoundary_of_isOperandChar (h c hc)
  have hfilter : cs.filter isOperandChar = cs :=
    List.filter_eq_self.mpr h
  rw [literals, literalPieces, hsplit, List.map_singleton, hfilter]

/-- Any other character is passed over, also within a literal. -/
theorem literals_append_ignored
    (hboundary : isBoundary c = false)
    (hoperand : isOperandChar c = false)
    (cs rest : List Char) :
    literals (cs ++ c :: rest) = literals (cs ++ rest) := by
  have hpieces : literalPieces (cs ++ c :: rest) = literalPieces (cs ++ rest) := by
    induction cs with
    | nil =>
        simp [literalPieces_cons, hboundary, hoperand]
    | cons d cs ih =>
        simp [literalPieces_cons, ih]
  rw [literals, literals, hpieces]

end Literals

namespace Conversion

section Counts

variable (op : Operator)

/-- A release moves operators from the stack to the output. -/
theorem count_release_operator
    (rank : Nat)
    (output : List Token)
    (stack : List Waiting) :
    (release rank output stack).1.count (.operator op) +
        (release rank output stack).2.count (.operator op) =
      output.count (.operator op) + stack.count (.operator op) := by
  obtain ⟨released, rest, rfl, hrelease, -, -⟩ := exists_released rank output stack
  have hwritten : (released.map Token.operator).count (.operator op) = released.count op :=
    List.count_map_of_injective released Token.operator (fun _ _ => Token.operator.inj) op
  have hwaiting : (released.map Waiting.operator).count (.operator op) = released.count op :=
    List.count_map_of_injective released Waiting.operator (fun _ _ => Waiting.operator.inj) op
  rw [hrelease]
  dsimp only
  rw [List.count_append, List.count_append, List.count_reverse, hwritten, hwaiting]
  omega

/-- It moves no operands. -/
theorem operandTexts_release
    (rank : Nat)
    (output : List Token)
    (stack : List Waiting) :
    operandTexts (release rank output stack).1.reverse = operandTexts output.reverse := by
  obtain ⟨released, rest, -, hrelease, -, -⟩ := exists_released rank output stack
  rw [hrelease]
  simp [operandTexts]

/-- A flush writes no operator. -/
theorem count_flush
    (s : Conversion) :
    s.flush.output.count (.operator op) = s.output.count (.operator op) := by
  unfold flush
  split <;> simp

end Counts

/-- A flush writes the operand that is being read as one literal. -/
theorem WellFormed.operandTexts_flush
    {s : Conversion}
    (h : s.WellFormed) :
    operandTexts s.flush.output.reverse =
      operandTexts s.output.reverse ++ literals s.operand.reverse := by
  have hliterals : literals s.operand.reverse = [s.operand.reverse].filter (· ≠ []) :=
    literals_of_operandChars fun c hc => h.operand c (List.mem_reverse.mp hc)
  rw [hliterals]
  obtain ⟨output, operand, stack⟩ := s
  cases operand with
  | nil =>
      simp [Conversion.flush]
  | cons c rest =>
      simp [Conversion.flush, operandTexts]

/-- A conversion of `cs` that still has `rest` before it has taken over everything else: the literals are
written, being read or to come, and each operator is written, waiting or to come. -/
structure Keeps (cs : List Char) (s : Conversion) (rest : List Char) : Prop where
  wellFormed : s.WellFormed
  operands :
    operandTexts s.output.reverse ++ literals (s.operand.reverse ++ rest) = literals cs
  operators :
    ∀ op : Operator,
      s.output.count (.operator op) + s.stack.count (.operator op) + rest.count op.symbol =
        cs.count op.symbol

/-- At the start everything is to come. -/
theorem keeps_start
    (cs : List Char) :
    Keeps cs {} cs :=
  ⟨⟨by simp, by simp⟩, by simp [operandTexts], by simp⟩

namespace Keeps

variable {cs rest : List Char} {c : Char} {s s' : Conversion}

/-- A boundary has the operand written that is being read. -/
theorem operands_boundary
    (h : Keeps cs s (c :: rest))
    (hc : isBoundary c = true)
    (houtput : operandTexts s'.output.reverse = operandTexts s.flush.output.reverse)
    (hoperand : s'.operand = []) :
    operandTexts s'.output.reverse ++ literals (s'.operand.reverse ++ rest) = literals cs := by
  rw [houtput, hoperand, h.wellFormed.operandTexts_flush, ← h.operands,
    literals_append_boundary hc]
  simp

/-- A character that is no symbol of an operator changes no count. -/
theorem operators_other
    (h : Keeps cs s (c :: rest))
    (hc : Operator.ofChar? c = none)
    (op : Operator) :
    s.output.count (.operator op) + s.stack.count (.operator op) + rest.count op.symbol =
      cs.count op.symbol := by
  have hne : c ≠ op.symbol := by
    rintro rfl
    simp [Operator.ofChar?_symbol] at hc
  rw [← h.operators op, List.count_cons_of_ne hne]

/-- One character moves nothing out of sight. -/
theorem step
    (h : Keeps cs s (c :: rest))
    (hstep : s.step c = .ok s') :
    Keeps cs s' rest := by
  have hwellFormed : s'.WellFormed :=
    step_wellFormed h.wellFormed hstep
  rcases step_cases hstep with
    ⟨hc, rfl⟩ | ⟨rfl, rfl⟩ | ⟨rfl, hclose⟩ | ⟨op, rfl, rfl⟩ | ⟨hc, hopening, hclosing, hnone, rfl⟩
  · have hnone : Operator.ofChar? c = none := by
      have hboundary := isBoundary_of_isOperandChar hc
      simp only [isBoundary, Bool.or_eq_false_iff] at hboundary
      simpa using hboundary.2
    exact ⟨hwellFormed, by simpa using h.operands, h.operators_other hnone⟩
  · refine ⟨hwellFormed, h.operands_boundary rfl rfl (by simp [openGroup]), ?_⟩
    intro op
    simpa [openGroup, count_flush] using h.operators_other rfl op
  · obtain ⟨output, stack, hrelease, rfl⟩ := closeGroup_eq_ok hclose
    refine ⟨hwellFormed, h.operands_boundary rfl ?_ rfl, ?_⟩
    · have htexts := operandTexts_release 0 s.flush.output s.stack
      rwa [hrelease] at htexts
    · intro op
      have hcount := count_release_operator op 0 s.flush.output s.stack
      rw [hrelease, count_flush] at hcount
      simpa [← hcount] using h.operators_other rfl op
  · refine ⟨hwellFormed, h.operands_boundary (isBoundary_symbol op) ?_ (by simp [putOperator]), ?_⟩
    · exact operandTexts_release op.rank s.flush.output s.flush.stack
    · intro other
      have hcount := count_release_operator other op.rank s.flush.output s.flush.stack
      rw [count_flush, flush_stack] at hcount
      have htotal := h.operators other
      rw [List.count_cons, ← hcount] at htotal
      simp only [putOperator, flush_stack, List.count_cons, symbol_beq_symbol] at htotal ⊢
      omega
  · have hboundary : isBoundary c = false := by
      simp [isBoundary, hopening, hclosing, hnone]
    refine ⟨hwellFormed, ?_, h.operators_other hnone⟩
    rw [← h.operands, literals_append_ignored hboundary hc]

end Keeps

/-- At the end of the text everything has been written. -/
theorem Keeps.finish
    {cs : List Char}
    {s : Conversion}
    {tokens : List Token}
    (h : Keeps cs s [])
    (hfinish : s.finish = .ok tokens) :
    operandTexts tokens = literals cs ∧
      ∀ op : Operator, tokens.count (.operator op) = cs.count op.symbol := by
  obtain ⟨output, hrelease, rfl⟩ := finish_eq_ok hfinish
  constructor
  · have htexts := operandTexts_release 0 s.flush.output s.stack
    rw [hrelease, h.wellFormed.operandTexts_flush] at htexts
    simpa [← htexts] using h.operands
  · intro op
    have hcount := count_release_operator op 0 s.flush.output s.stack
    rw [hrelease, count_flush] at hcount
    simpa [← hcount] using h.operators op

end Conversion

/-- The operands of a postfix form are the literals of its text, and each operator is there as often. -/
theorem operandTexts_toPostfix
    {cs : List Char}
    {tokens : List Token}
    (h : toPostfix cs = .ok tokens) :
    operandTexts tokens = literals cs ∧
      ∀ op : Operator, tokens.count (.operator op) = cs.count op.symbol := by
  unfold toPostfix at h
  cases hrun : Conversion.run {} cs with
  | error f =>
      rw [hrun] at h
      cases h
  | ok s =>
      rw [hrun] at h
      have hkeeps : Keeps cs s [] :=
        run_invariant (fun _ _ _ _ hs hstep => hs.step hstep) (keeps_start cs) hrun
      exact hkeeps.finish h

section Words

variable {tokens : List Token}

/-- The words of a postfix form are the texts of its tokens. -/
theorem words_showPostfix
    (h : ∀ cs, Token.operand cs ∈ tokens → OperandRun cs) :
    words (showPostfix tokens) = tokens.map Token.text := by
  rw [← map_text_readPostfix, readPostfix_showPostfix h]

/-- An operand is told from an operator by its characters. -/
theorem filter_map_text
    (h : ∀ cs, Token.operand cs ∈ tokens → OperandRun cs) :
    (tokens.map Token.text).filter (fun word => word.all isOperandChar) = operandTexts tokens := by
  induction tokens with
  | nil =>
      rfl
  | cons token rest ih =>
      have hrest := ih fun cs hcs => h cs (List.mem_cons_of_mem _ hcs)
      rw [List.map_cons]
      cases token with
      | operand cs =>
          have hrun : cs.all isOperandChar = true :=
            List.all_eq_true.mpr (h cs List.mem_cons_self).2
          rw [List.filter_cons_of_pos (by simpa [Token.text] using hrun), hrest]
          rfl
      | operator op =>
          have hsymbol : ¬ [op.symbol].all isOperandChar = true := by
            cases op <;> decide
          rw [List.filter_cons_of_neg (by simpa [Token.text] using hsymbol), hrest]
          rfl

/-- The word of an operator is the text of nothing else. -/
theorem count_map_text
    (h : ∀ cs, Token.operand cs ∈ tokens → OperandRun cs)
    (op : Operator) :
    (tokens.map Token.text).count [op.symbol] = tokens.count (.operator op) := by
  rw [List.count_eq_countP, List.countP_map, List.count_eq_countP]
  refine List.countP_congr ?_
  intro token htoken
  cases token with
  | operand cs =>
      have hne : cs ≠ [op.symbol] := by
        rintro rfl
        exact (h _ htoken).not_mem (by cases op <;> rfl) List.mem_cons_self
      simp [Token.text, hne]
  | operator op' =>
      cases op <;> cases op' <;> decide

end Words

/-- A conversion loses nothing and makes nothing up, whatever the form of its text.  The words of the
postfix form hold no parenthesis, those of digits and points are the literals of the text in their
order, and each other one is an operator, of which there are as many as in the text. -/
theorem toPostfix_conserves
    {cs : List Char}
    {tokens : List Token}
    (h : toPostfix cs = .ok tokens) :
    (∀ word ∈ words (showPostfix tokens), '(' ∉ word ∧ ')' ∉ word) ∧
    (words (showPostfix tokens)).filter (fun word => word.all isOperandChar) = literals cs ∧
    (∀ word ∈ words (showPostfix tokens),
      word.all isOperandChar = true ∨ ∃ op : Operator, word = [op.symbol]) ∧
    ∀ op : Operator, (words (showPostfix tokens)).count [op.symbol] = cs.count op.symbol := by
  have hruns : ∀ ds, Token.operand ds ∈ tokens → OperandRun ds :=
    fun ds hds => operandRun_of_mem_toPostfix h hds
  obtain ⟨htexts, hcount⟩ := operandTexts_toPostfix h
  rw [words_showPostfix hruns]
  refine ⟨?_, ?_, ?_, ?_⟩
  · intro word hword
    obtain ⟨token, htoken, rfl⟩ := List.mem_map.mp hword
    cases token with
    | operand ds =>
        exact ⟨(hruns ds htoken).not_mem rfl, (hruns ds htoken).not_mem rfl⟩
    | operator op =>
        cases op <;> simp [Token.text, Operator.symbol]
  · rw [filter_map_text hruns, htexts]
  · intro word hword
    obtain ⟨token, htoken, rfl⟩ := List.mem_map.mp hword
    cases token with
    | operand ds =>
        exact .inl (List.all_eq_true.mpr (hruns ds htoken).2)
    | operator op =>
        exact .inr ⟨op, rfl⟩
  · intro op
    rw [count_map_text hruns, hcount]

/-- Operators without operands, a point alone, and literals around characters without a meaning. -/
theorem toPostfix_conserves_ungrammatical :
    ∃ tokens : List Token,
      toPostfix "(4 2(.-)1/+a7*x.5)".toList = .ok tokens ∧
      showPostfix tokens = "42 . - 1 / 7 .5 * +".toList ∧
      (words (showPostfix tokens)).filter (fun word => word.all isOperandChar) =
        ["42".toList, ".".toList, "1".toList, "7".toList, ".5".toList] ∧
      ∀ op : Operator, (words (showPostfix tokens)).count [op.symbol] = 1 := by
  have htokens :
      toPostfix "(4 2(.-)1/+a7*x.5)".toList =
        .ok [.operand "42".toList, .operand ".".toList, .operator .minus, .operand "1".toList,
          .operator .dividedBy, .operand "7".toList, .operand ".5".toList, .operator .times,
          .operator .plus] := by
    rfl
  obtain ⟨-, hliterals, -, hcount⟩ := toPostfix_conserves htokens
  refine ⟨_, htokens, rfl, hliterals, ?_⟩
  intro op
  rw [hcount op]
  cases op <;> rfl

end Expression
end Reckoner
