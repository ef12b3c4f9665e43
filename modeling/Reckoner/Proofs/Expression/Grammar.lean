import Reckoner.Expression.Evaluation
import Reckoner.Proofs.Number.NumeralGrammar

/-!
# The grammar of infix expressions

An expression is a chain of sums and differences of terms, a term is a chain of products and
quotients of factors, and a factor is a numeral or an expression in parentheses:

* expression := term | expression (`+` | `-`) term
* term := factor | term (`*` | `/`) factor | term factor
* factor := numeral | `(` expression `)`

`Derives` relates a text of this grammar to the tree of its operations.  Chains lean to the left,
terms bind more tightly than sums, and a pair of parentheses leaves no trace in the tree.

The grammar has two parameters: what counts as a numeral, and between which neighbouring texts a
product may be left unwritten.  `Sentence` is the grammar of all expressions, `WrittenSentence` the one
without implied products.
-/

namespace Reckoner
namespace Expression

/-- The operations of an expression as a tree. -/
inductive Tree where
  | numeral (text : List Char)
  | operation (op : Operator) (left right : Tree)
  deriving DecidableEq, Repr

namespace Tree

/-- The value of a tree by recursion: the left operand, the right operand, then the operation on
both.  The first failure ends the evaluation. -/
def eval (p : Precision) : Tree → Except Failure Value
  | numeral text => Numeral.toValue p text
  | operation op left right =>
      match eval p left with
      | .error f => .error f
      | .ok a =>
          match eval p right with
          | .error f => .error f
          | .ok b => op.apply a b

/-- The tokens of a tree, every operation after its operands. -/
def postorder : Tree → List Token
  | numeral text => [.operand text]
  | operation op left right =>
      postorder left ++ postorder right ++ [.operator op]

/-- The numerals of a tree from left to right. -/
def numerals : Tree → List (List Char)
  | numeral text => [text]
  | operation _ left right => numerals left ++ numerals right

theorem forall_numerals_numeral
    {P : List Char → Prop}
    {text : List Char} :
    (∀ cs ∈ (numeral text).numerals, P cs) ↔ P text :=
  List.forall_mem_singleton

theorem forall_numerals_operation
    {P : List Char → Prop}
    {op : Operator}
    {left right : Tree} :
    (∀ cs ∈ (operation op left right).numerals, P cs) ↔
      (∀ cs ∈ left.numerals, P cs) ∧ ∀ cs ∈ right.numerals, P cs :=
  List.forall_mem_append

/-- The operands among the tokens of a tree are its leaves. -/
theorem operand_mem_postorder
    {t : Tree}
    {cs : List Char}
    (h : Token.operand cs ∈ t.postorder) :
    cs ∈ t.numerals := by
  induction t with
  | numeral ds =>
      simpa [postorder, numerals] using h
  | operation op l r ihl ihr =>
      rw [numerals, List.mem_append]
      simp only [postorder, List.mem_append, List.mem_singleton, reduceCtorEq, or_false] at h
      exact h.imp ihl ihr

end Tree

/-- The layers of the grammar. -/
inductive Level where
  | expression
  | term
  | factor
  deriving DecidableEq, Repr

/-- How tightly the operators bind that chain the parts of a layer; factors are not chained. -/
def Level.rank : Level → Nat
  | expression => 1
  | term => 2
  | factor => 3

/-- The texts of a layer and the trees of their operations. -/
inductive Derives
    (leaf : List Char → Prop)
    (gap : List Char → List Char → Prop) :
    Level → List Char → Tree → Prop
  | numeral
      {cs : List Char}
      (hleaf : leaf cs) :
      Derives leaf gap .factor cs (.numeral cs)
  | group
      {cs : List Char} {t : Tree}
      (inner : Derives leaf gap .expression cs t) :
      Derives leaf gap .factor ('(' :: (cs ++ [')'])) t
  | ofFactor
      {cs : List Char} {t : Tree}
      (inner : Derives leaf gap .factor cs t) :
      Derives leaf gap .term cs t
  | product
      {cs ds : List Char} {t u : Tree}
      (op : Operator)
      (hop : op.rank = Level.term.rank)
      (left : Derives leaf gap .term cs t)
      (right : Derives leaf gap .factor ds u) :
      Derives leaf gap .term (cs ++ op.symbol :: ds) (.operation op t u)
  | implied
      {cs ds : List Char} {t u : Tree}
      (hgap : gap cs ds)
      (left : Derives leaf gap .term cs t)
      (right : Derives leaf gap .factor ds u) :
      Derives leaf gap .term (cs ++ ds) (.operation .times t u)
  | ofTerm
      {cs : List Char} {t : Tree}
      (inner : Derives leaf gap .term cs t) :
      Derives leaf gap .expression cs t
  | sum
      {cs ds : List Char} {t u : Tree}
      (op : Operator)
      (hop : op.rank = Level.expression.rank)
      (left : Derives leaf gap .expression cs t)
      (right : Derives leaf gap .term ds u) :
      Derives leaf gap .expression (cs ++ op.symbol :: ds) (.operation op t u)

/-- Where a product may be left unwritten: after a digit or a closing parenthesis and before an
opening one, or after a closing parenthesis and before a digit. -/
def ImpliedBetween (cs ds : List Char) : Prop :=
  ∃ a b : Char,
    cs.getLast? = some a ∧
    ds.head? = some b ∧
    (((a.isDigit = true ∨ a = ')') ∧ b = '(') ∨
      (a = ')' ∧ b.isDigit = true))

/-- No product is left unwritten. -/
def NoGap (_ _ : List Char) : Prop := False

/-- The grammar of infix expressions. -/
def Sentence : Level → List Char → Tree → Prop :=
  Derives Numeral.IsLiteral ImpliedBetween

/-- The grammar of infix expressions with every product written. -/
def WrittenSentence : Level → List Char → Tree → Prop :=
  Derives Numeral.IsLiteral NoGap

/-- A run of digits and points, the characters that a conversion collects into one operand. -/
def OperandRun (cs : List Char) : Prop :=
  cs ≠ [] ∧ ∀ c ∈ cs, Conversion.isOperandChar c = true

theorem isOperandChar_of_isDigit
    {c : Char}
    (h : c.isDigit = true) :
    Conversion.isOperandChar c = true := by
  simp [Conversion.isOperandChar, h]

/-- Every numeral is such a run. -/
theorem operandRun_of_isLiteral
    {cs : List Char}
    (h : Numeral.IsLiteral cs) :
    OperandRun cs := by
  cases h with
  | integer nonempty digits =>
      exact ⟨nonempty, fun c hc => isOperandChar_of_isDigit (digits c hc)⟩
  | pointed nonempty digits places =>
      refine ⟨by simp, ?_⟩
      intro c hc
      simp only [List.mem_append, List.mem_cons] at hc
      rcases hc with hc | rfl | hc
      · exact isOperandChar_of_isDigit (digits c hc)
      · rfl
      · exact isOperandChar_of_isDigit (places c hc)
  | fraction nonempty places =>
      refine ⟨by simp, ?_⟩
      intro c hc
      rcases List.mem_cons.mp hc with rfl | hc
      · rfl
      · exact isOperandChar_of_isDigit (places c hc)

theorem OperandRun.not_mem
    {cs : List Char}
    (h : OperandRun cs)
    {c : Char}
    (hc : Conversion.isOperandChar c = false) :
    c ∉ cs := by
  intro hmem
  have := h.2 c hmem
  simp [hc] at this

/-- A run of digits and points that the test for numerals accepts is a numeral. -/
theorem OperandRun.isLiteral
    {cs : List Char}
    (h : OperandRun cs)
    (hnumeral : Numeral.isNumeral cs = true) :
    Numeral.IsLiteral cs :=
  (Numeral.isNumeral_iff_isLiteral (h.not_mem (by decide))).mp hnumeral

namespace Derives

variable {leaf : List Char → Prop}
variable {gap : List Char → List Char → Prop}
variable {level : Level} {cs : List Char} {t : Tree}

/-- The numerals of the tree are numerals of the grammar. -/
theorem leaf_of_mem_numerals
    (d : Derives leaf gap level cs t) :
    ∀ ds ∈ t.numerals, leaf ds := by
  induction d with
  | numeral h =>
      exact Tree.forall_numerals_numeral.mpr h
  | group _ ih | ofFactor _ ih | ofTerm _ ih =>
      exact ih
  | product _ _ _ _ ihl ihr | implied _ _ _ ihl ihr | sum _ _ _ _ ihl ihr =>
      exact Tree.forall_numerals_operation.mpr ⟨ihl, ihr⟩

/-- A text is also derived with another notion of numerals that has those of the tree, and with more
gaps. -/
theorem relabel
    {leaf' : List Char → Prop}
    {gap' : List Char → List Char → Prop}
    (d : Derives leaf gap level cs t)
    (hleaf : ∀ ds ∈ t.numerals, leaf' ds)
    (hgap : ∀ ds es, gap ds es → gap' ds es) :
    Derives leaf' gap' level cs t := by
  induction d with
  | numeral _ =>
      exact .numeral (Tree.forall_numerals_numeral.mp hleaf)
  | group _ ih =>
      exact .group (ih hleaf)
  | ofFactor _ ih =>
      exact .ofFactor (ih hleaf)
  | product op hop _ _ ihl ihr =>
      obtain ⟨hl, hr⟩ := Tree.forall_numerals_operation.mp hleaf
      exact .product op hop (ihl hl) (ihr hr)
  | implied h _ _ ihl ihr =>
      obtain ⟨hl, hr⟩ := Tree.forall_numerals_operation.mp hleaf
      exact .implied (hgap _ _ h) (ihl hl) (ihr hr)
  | ofTerm _ ih =>
      exact .ofTerm (ih hleaf)
  | sum op hop _ _ ihl ihr =>
      obtain ⟨hl, hr⟩ := Tree.forall_numerals_operation.mp hleaf
      exact .sum op hop (ihl hl) (ihr hr)

end Derives

end Expression
end Reckoner
