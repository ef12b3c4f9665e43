import Reckoner.Proofs.Expression.PostfixTokens
import Reckoner.Proofs.Expression.TokenFold
import Reckoner.Proofs.Expression.TreeEvaluation

/-!
# Trees in postfix form

A text in postfix form is folded on a stack that knows nothing of trees.  Still, as long as no value is
lost, every value on the stack is that of a tree, and these trees in post-order, one after another, are
the tokens that were read.  In the end one tree is left.  No other tree has the same tokens, so the text
decides which operand belongs to which operator.

**Results.**
* `Tree.postorder_injective`: a tree is known by its tokens in post-order.
* `Tree.numerals_eq_filter`: its leaves are the numerals among its words, in their order.
* `Folds.grown`: what is on the stack of a fold without losses, by the tokens that it has read.
* `evaluatePostfix_iff_spells`: which texts have a value without losses, and which value that is.
-/

namespace Reckoner
namespace Expression

/-- No numeral is the symbol of an operator. -/
theorem isNumeral_symbol
    (op : Operator) :
    Numeral.isNumeral [op.symbol] = false := by
  cases op <;> decide

theorem ofText?_of_isNumeral
    {cs : List Char}
    (h : Numeral.isNumeral cs = true) :
    Operator.ofText? cs = none := by
  by_contra hsome
  obtain ⟨op, hop⟩ := Option.ne_none_iff_exists'.mp hsome
  rw [eq_symbol_of_ofText? hop, isNumeral_symbol] at h
  cases h

/-- A word is the text of its token. -/
theorem text_ofWord
    (word : List Char) :
    (Token.ofWord word).text = word := by
  unfold Token.ofWord
  cases hop : Operator.ofText? word with
  | none =>
      rfl
  | some op =>
      exact (eq_symbol_of_ofText? hop).symm

/-- The words of a text between blanks. -/
def words (cs : List Char) : List (List Char) :=
  Text.fullPieces ' ' cs

theorem map_text_readPostfix
    (cs : List Char) :
    (readPostfix cs).map Token.text = words cs := by
  rw [readPostfix, List.map_map]
  conv_rhs => rw [← List.map_id (words cs)]
  exact List.map_congr_left fun word _ => text_ofWord word

/-- Where all words are numerals or operators, all operands are numerals. -/
theorem isNumeral_of_mem_readPostfix
    {cs ds : List Char}
    (h : ∀ word ∈ words cs, Numeral.isNumeral word = true ∨ ∃ op : Operator, word = [op.symbol])
    (hds : Token.operand ds ∈ readPostfix cs) :
    Numeral.isNumeral ds = true := by
  obtain ⟨word, hword, htoken⟩ := List.mem_map.mp hds
  have hsame : word = ds := by
    rw [← text_ofWord word, htoken]
    rfl
  subst hsame
  refine (h word hword).resolve_right ?_
  rintro ⟨op, rfl⟩
  simp [Token.ofWord, Operator.ofText?, Operator.ofChar?_symbol] at htoken

namespace Tree

/-- A tree spells its words in post-order, and its leaves are numerals. -/
structure Spells (t : Tree) (words : List (List Char)) : Prop where
  numerals : ∀ cs ∈ t.numerals, Numeral.isNumeral cs = true
  words : t.postorder.map Token.text = words

/-- The trees that tokens in post-order leave on a stack of trees, the latest first.  A token that lacks
an operand ends the reading. -/
def assemble (stack : List Tree) : List Token → List Tree
  | [] => stack
  | .operand cs :: rest => assemble (.numeral cs :: stack) rest
  | .operator op :: rest =>
      match stack with
      | right :: left :: stack => assemble (.operation op left right :: stack) rest
      | _ => stack

/-- The tokens of a tree leave that tree. -/
theorem assemble_postorder
    (t : Tree)
    (stack : List Tree)
    (rest : List Token) :
    assemble stack (t.postorder ++ rest) = assemble (t :: stack) rest := by
  induction t generalizing stack rest with
  | numeral cs =>
      rfl
  | operation op l r ihl ihr =>
      have hassoc :
          (operation op l r).postorder ++ rest =
            l.postorder ++ (r.postorder ++ (.operator op :: rest)) := by
        simp [postorder]
      rw [hassoc, ihl, ihr, assemble]

/-- A tree is known by its tokens in post-order. -/
theorem postorder_injective
    {t u : Tree}
    (h : t.postorder = u.postorder) :
    t = u := by
  have ht := assemble_postorder t [] []
  have hu := assemble_postorder u [] []
  rw [h, hu] at ht
  exact (List.cons.inj ht).1.symm

/-- The leaves of a tree are the numerals among its words. -/
theorem numerals_eq_filter
    {t : Tree}
    (h : ∀ cs ∈ t.numerals, Numeral.isNumeral cs = true) :
    t.numerals = (t.postorder.map Token.text).filter Numeral.isNumeral := by
  induction t with
  | numeral cs =>
      have hcs : Numeral.isNumeral cs = true :=
        forall_numerals_numeral.mp h
      simp [numerals, postorder, Token.text, hcs]
  | operation op l r ihl ihr =>
      obtain ⟨hl, hr⟩ := forall_numerals_operation.mp h
      rw [numerals, ihl hl, ihr hr]
      simp [postorder, Token.text, isNumeral_symbol]

/-- A text is read as the tokens of a tree exactly if that tree spells its words. -/
theorem spells_words_iff
    {t : Tree}
    {cs : List Char} :
    t.Spells (words cs) ↔
      (∀ ds ∈ t.numerals, Numeral.isNumeral ds = true) ∧ readPostfix cs = t.postorder := by
  constructor
  · rintro ⟨hnumerals, hwords⟩
    refine ⟨hnumerals, ?_⟩
    have hback : (t.postorder.map Token.text).map Token.ofWord = t.postorder :=
      map_ofWord_text fun ds hds => ofText?_of_isNumeral (hnumerals ds (operand_mem_postorder hds))
    rw [← hback, hwords]
    rfl
  · rintro ⟨hnumerals, hread⟩
    refine ⟨hnumerals, ?_⟩
    rw [← hread, map_text_readPostfix]

end Tree

section Folds

variable {p : Precision}
variable {stack stack' : List Value}
variable {read tokens : List Token}
variable {losses : List Event}

/-- Every value on a stack is that of a tree of numerals, and the trees in post-order, the lowest
first, are the tokens that were read. -/
inductive Grown (p : Precision) : List Value → List Token → Prop
  | nil :
      Grown p [] []
  | push
      {stack : List Value}
      {read : List Token}
      {t : Tree}
      {v : Value}
      (below : Grown p stack read)
      (hnumerals : ∀ cs ∈ t.numerals, Numeral.isNumeral cs = true)
      (hvalue : t.eval p = .ok v) :
      Grown p (v :: stack) (read ++ t.postorder)

/-- An operation joins the two trees above to one. -/
theorem Grown.operation
    {op : Operator}
    {left right v : Value}
    (h : Grown p (right :: left :: stack) read)
    (hvalue : op.apply left right = .ok v) :
    Grown p (v :: stack) (read ++ [.operator op]) := by
  rcases h with _ | @⟨_, _, u, _, habove, hu, hright⟩
  rcases habove with _ | @⟨_, read, t, _, below, ht, hleft⟩
  have hnumerals :
      ∀ cs ∈ (Tree.operation op t u).numerals, Numeral.isNumeral cs = true := by
    intro cs hcs
    rcases List.mem_append.mp hcs with hcs | hcs
    · exact ht cs hcs
    · exact hu cs hcs
  have hjoined : (Tree.operation op t u).eval p = .ok v := by
    rw [Tree.eval, hleft, hright]
    exact hvalue
  simpa [Tree.postorder] using Grown.push below hnumerals hjoined

/-- A fold without losses keeps to trees. -/
theorem Folds.grown
    (h : Folds p stack tokens losses stack')
    (hlosses : losses = [])
    (hstack : Grown p stack read) :
    Grown p stack' (read ++ tokens) := by
  induction h generalizing read with
  | nil stack =>
      simpa using hstack
  | @numeral cs v _ _ rest _ hnumeral hvalue _ ih =>
      have hleaf : ∀ ds ∈ (Tree.numeral cs).numerals, Numeral.isNumeral ds = true := by
        simpa [Tree.numerals] using hnumeral
      have hpushed := Grown.push hstack hleaf hvalue
      simpa [Tree.postorder] using ih hlosses hpushed
  | lost =>
      cases hlosses
  | operator hvalue _ ih =>
      simpa using ih hlosses (hstack.operation hvalue)

/-- So it leads to one value only through a tree. -/
theorem Folds.exists_tree
    {v : Value}
    (h : Folds p [] tokens losses [v])
    (hlosses : losses = []) :
    ∃ t : Tree,
      (∀ cs ∈ t.numerals, Numeral.isNumeral cs = true) ∧ tokens = t.postorder ∧ t.eval p = .ok v := by
  have hgrown := h.grown hlosses .nil
  rw [List.nil_append] at hgrown
  rcases hgrown with _ | @⟨_, _, t, _, below, hnumerals, hvalue⟩
  cases below
  exact ⟨t, hnumerals, rfl, hvalue⟩

/-- A text that is folded to one value without losses is spelt by such a tree. -/
theorem Folds.exists_spells
    {cs : List Char}
    {v : Value}
    (h : Folds p [] (readPostfix cs) losses [v])
    (hlosses : losses = []) :
    ∃ t : Tree, t.Spells (words cs) ∧ t.eval p = .ok v := by
  obtain ⟨t, hnumerals, hread, hvalue⟩ := h.exists_tree hlosses
  exact ⟨t, Tree.spells_words_iff.mpr ⟨hnumerals, hread⟩, hvalue⟩

/-- Only a token that is neither a numeral nor an operator is lost. -/
theorem Folds.losses_eq_nil
    (h : Folds p stack tokens losses stack')
    (htokens : ∀ cs, Token.operand cs ∈ tokens → Numeral.isNumeral cs = true) :
    losses = [] := by
  induction h with
  | nil =>
      rfl
  | numeral _ _ _ ih | operator _ _ ih =>
      exact ih fun cs hcs => htokens cs (List.mem_cons_of_mem _ hcs)
  | lost hnumeral =>
      rw [htokens _ List.mem_cons_self] at hnumeral
      cases hnumeral

end Folds

/-- The words of a tree are folded to what the tree is evaluated to. -/
theorem evaluatePostfix_of_spells
    {cs : List Char}
    {t : Tree}
    (h : t.Spells (words cs))
    (p : Precision) :
    evaluatePostfix p cs = .plain (t.eval p) := by
  obtain ⟨hnumerals, hread⟩ := Tree.spells_words_iff.mp h
  have hfold := foldTokens_postorder p hnumerals [] []
  rw [List.append_nil] at hfold
  rw [evaluatePostfix, hread, hfold]
  cases t.eval p <;> rfl

/-- A text in postfix form has a value without a warning exactly if its words are those of a tree of
numerals in post-order that has this value.  There is at most one such tree, its leaves are all numerals
among the words, in their order, and the text is evaluated as it is, also where that fails.  Words that
are all numerals or operators, but not those of a tree, have no value. -/
theorem evaluatePostfix_iff_spells
    (p : Precision)
    (cs : List Char) :
    (∀ v : Value,
      (evaluatePostfix p cs).result = .ok v ∧ (evaluatePostfix p cs).warnings = [] ↔
        ∃ t : Tree, t.Spells (words cs) ∧ t.eval p = .ok v) ∧
    (∀ t u : Tree, t.Spells (words cs) → u.Spells (words cs) → t = u) ∧
    (∀ t : Tree, t.Spells (words cs) →
      t.numerals = (words cs).filter Numeral.isNumeral ∧
      evaluatePostfix p cs = .plain (t.eval p)) ∧
    ((∀ word ∈ words cs,
        Numeral.isNumeral word = true ∨ ∃ op : Operator, word = [op.symbol]) →
      (¬ ∃ t : Tree, t.Spells (words cs)) →
      ∀ v : Value, (evaluatePostfix p cs).result ≠ .ok v) := by
  refine ⟨fun v => ⟨?_, ?_⟩, ?_, ?_, ?_⟩
  · rintro ⟨hresult, hwarnings⟩
    have hfolds := folds_of_foldTokens hresult
    exact hfolds.exists_spells (hfolds.losses_eq_nil_of_warnings hwarnings)
  · rintro ⟨t, hspells, hvalue⟩
    rw [evaluatePostfix_of_spells hspells, hvalue]
    exact ⟨rfl, rfl⟩
  · intro t u ht hu
    have htokens := (Tree.spells_words_iff.mp ht).2
    have hutokens := (Tree.spells_words_iff.mp hu).2
    exact Tree.postorder_injective (htokens.symm.trans hutokens)
  · intro t hspells
    refine ⟨?_, evaluatePostfix_of_spells hspells p⟩
    rw [← hspells.words]
    exact Tree.numerals_eq_filter hspells.numerals
  · intro hknown hnone v hresult
    have hfolds := folds_of_foldTokens hresult
    have hlosses := hfolds.losses_eq_nil fun ds hds => isNumeral_of_mem_readPostfix hknown hds
    obtain ⟨t, hspells, -⟩ := hfolds.exists_spells hlosses
    exact hnone ⟨t, hspells⟩

/-- A product of a fraction without a whole part, below a difference, with more blanks than are
needed. -/
theorem evaluatePostfix_iff_spells_blanks :
    let cs := "  12. .5 3  *  - ".toList
    ∃ (t : Tree) (v : Value),
      t.Spells (words cs) ∧
      t.numerals = ["12.".toList, ".5".toList, "3".toList] ∧
      evaluatePostfix {} cs = .plain (.ok v) ∧
      v.text = "21/2" := by
  intro cs
  let t : Tree :=
    .operation .minus (.numeral "12.".toList)
      (.operation .times (.numeral ".5".toList) (.numeral "3".toList))
  have hvalue :
      t.eval {} = .ok ⟨.exact ⟨21, 2, by decide, by decide, by decide⟩, 10, by decide⟩ := by
    decide +kernel
  have hspells : t.Spells (words cs) := by
    refine ⟨?_, by decide +kernel⟩
    intro ds hds
    simp only [t, Tree.numerals, List.cons_append, List.nil_append, List.mem_cons,
      List.not_mem_nil, or_false] at hds
    rcases hds with rfl | rfl | rfl <;> decide
  obtain ⟨hnumerals, hevaluate⟩ := (evaluatePostfix_iff_spells {} cs).2.2.1 t hspells
  refine ⟨t, _, hspells, ?_, hevaluate.trans (congrArg Outcome.plain hvalue), by decide +kernel⟩
  rw [hnumerals]
  decide +kernel

end Expression
end Reckoner
