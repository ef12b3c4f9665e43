import Reckoner.Proofs.Expression.ImpliedProducts
import Reckoner.Proofs.Expression.OperatorStack

/-!
# Evaluation by recursion on the tree

Three passes evaluate an expression: a scan that writes the implied products, a conversion that
reorders the tokens, and a fold on a stack of values.  Together they do what the recursive
evaluation of the tree of the expression does, also where it fails: the fold over a tree in
post-order meets the failures of its subtrees in the order of the recursion.

**Results.**
* `foldTokens_postorder`: the tokens of a tree leave its value on the stack, or its first failure.
* `evaluate_of_sentence`: the passes together, with the one event on the way.
* `evaluate_sentence_eq_eval`: an expression evaluates to what its tree evaluates to, however it is
  parenthesised.
-/

namespace Reckoner
namespace Expression

/-- The tokens of a tree put its value on the stack, or stop the fold with its first failure. -/
theorem foldTokens_postorder
    (p : Precision)
    {t : Tree}
    (h : ∀ cs ∈ t.numerals, Numeral.isNumeral cs = true)
    (stack : List Value)
    (rest : List Token) :
    foldTokens p stack (t.postorder ++ rest) =
      match t.eval p with
      | .error f => .plain (.error f)
      | .ok v => foldTokens p (v :: stack) rest := by
  induction t generalizing stack rest with
  | numeral cs =>
      have hcs : Numeral.isNumeral cs = true :=
        Tree.forall_numerals_numeral.mp h
      rw [Tree.postorder, List.singleton_append, Tree.eval]
      cases hv : Numeral.toValue p cs with
      | error f =>
          simp only [foldTokens, if_pos hcs, hv]
      | ok v =>
          simp only [foldTokens, if_pos hcs, hv]
  | operation op l r ihl ihr =>
      obtain ⟨hnl, hnr⟩ := Tree.forall_numerals_operation.mp h
      have hl := ihl hnl stack
        (r.postorder ++ (.operator op :: rest))
      have hassoc :
          (Tree.operation op l r).postorder ++ rest =
            l.postorder ++ (r.postorder ++ (.operator op :: rest)) := by
        simp [Tree.postorder]
      rw [hassoc, hl, Tree.eval]
      cases l.eval p with
      | error f =>
          rfl
      | ok a =>
          have hr := ihr hnr (a :: stack) (.operator op :: rest)
          dsimp only
          rw [hr]
          cases r.eval p with
          | error f =>
              rfl
          | ok b =>
              cases hv : op.apply a b with
              | error f =>
                  simp only [foldTokens, hv]
              | ok v =>
                  simp only [foldTokens, hv]

/-- Every numeral of a derived tree is one for the fold, too. -/
theorem isNumeral_of_mem_numerals
    {gap : List Char → List Char → Prop}
    {level : Level} {cs : List Char} {t : Tree}
    (d : Derives Numeral.IsLiteral gap level cs t) :
    ∀ ds ∈ t.numerals, Numeral.isNumeral ds = true := by
  intro ds hds
  exact Numeral.isNumeral_of_isLiteral (d.leaf_of_mem_numerals ds hds)

/-- The three passes over an expression: one event, and the value or the first failure of its
tree. -/
theorem evaluate_of_sentence
    {cs : List Char} {t : Tree}
    (d : Sentence .expression cs t)
    (p : Precision) :
    evaluate p cs = ⟨[.converted t.postorder], t.eval p⟩ := by
  have hwritten : WrittenSentence .expression (insertProducts cs) t :=
    Derives.written (fun _ => operandRun_of_isLiteral) d
  have hpostfix : toPostfix (insertProducts cs) = .ok t.postorder :=
    toPostfix_of_derives (fun _ => operandRun_of_isLiteral) hwritten
  have hfold := foldTokens_postorder p (isNumeral_of_mem_numerals d) [] []
  rw [List.append_nil] at hfold
  rw [evaluate, hpostfix]
  dsimp only
  rw [hfold]
  cases t.eval p <;> rfl

/-- An expression evaluates to what the recursion over its tree gives: the same value, or the
failure that the recursion meets first.  The only event is the postfix form, and expressions that
differ in parentheses but not in their tree have the same result. -/
theorem evaluate_sentence_eq_eval
    {cs : List Char} {t : Tree}
    (d : Sentence .expression cs t)
    (p : Precision) :
    evaluate p cs = ⟨[.converted t.postorder], t.eval p⟩ ∧
      ∀ {ds : List Char},
        Sentence .expression ds t →
        (evaluate p ds).result = (evaluate p cs).result := by
  refine ⟨evaluate_of_sentence d p, ?_⟩
  intro ds e
  rw [evaluate_of_sentence d p, evaluate_of_sentence e p]

/-- Two implied products, then a quotient by zero, all before the sum: the recursion fails at the
quotient, whose dividend is `24`. -/
theorem evaluate_sentence_zero_divisor :
    ∃ t : Tree,
      Sentence .expression "1+2(3)4/(5-5)".toList t ∧
      (evaluate {} "1+2(3)4/(5-5)".toList).result = .error (.zeroDivisor (some "24")) := by
  have digit :
      ∀ c : Char, c.isDigit = true → Sentence .factor [c] (.numeral [c]) := by
    intro c hc
    exact .numeral (.integer (by simp) (by simpa [Numeral.Digits] using hc))
  have three : Sentence .factor "(3)".toList (.numeral ['3']) :=
    .group (.ofTerm (.ofFactor (digit '3' rfl)))
  have zero : Sentence .factor "(5-5)".toList
      (.operation .minus (.numeral ['5']) (.numeral ['5'])) :=
    .group (.sum .minus rfl (.ofTerm (.ofFactor (digit '5' rfl))) (.ofFactor (digit '5' rfl)))
  have twice : Sentence .term "2(3)".toList
      (.operation .times (.numeral ['2']) (.numeral ['3'])) :=
    .implied ⟨'2', '(', rfl, rfl, by decide⟩ (.ofFactor (digit '2' rfl)) three
  have product : Sentence .term "2(3)4".toList
      (.operation .times (.operation .times (.numeral ['2']) (.numeral ['3'])) (.numeral ['4'])) :=
    .implied ⟨')', '4', rfl, rfl, by decide⟩ twice (digit '4' rfl)
  have sentence :=
    Derives.sum .plus rfl (.ofTerm (.ofFactor (digit '1' rfl)))
      (Derives.product .dividedBy rfl product zero)
  refine ⟨_, sentence, ?_⟩
  have hresult := (evaluate_sentence_eq_eval sentence {}).1
  exact (congrArg Outcome.result hresult).trans (by decide +kernel)

end Expression
end Reckoner
