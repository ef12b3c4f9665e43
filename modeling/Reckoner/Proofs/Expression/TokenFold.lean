import Reckoner.Expression.Evaluation
import Mathlib.Tactic.Common

/-!
# Folds of tokens

A fold of tokens that does not fail leads from one stack to another.  `Folds` has a rule for each thing
that one token can do: a numeral is pushed, an operator replaces two values by one, and any other
token is lost together with two values.  What a fold keeps is proved by induction on these rules.

**Results.**
* `Folds.foldTokens_append`: the evaluation goes on from the stack that a fold leads to.
* `foldTokens_cases`: all that one token can do.
* `foldTokens_failure`: a fold fails for the number of values that it finds, or for a number.
* `folds_of_evaluate`: an evaluation that has a value is a fold to that value alone.
* `Folds.losses_eq_nil_of_warnings`: whatever is lost is warned of.
* `Folds.above`: values below the stack are left alone.
* `Folds.length_eq`: the number of values changes by the balance of the tokens.
-/

namespace Reckoner
namespace Expression

/-- The fold of tokens from one stack to another, with the losses on the way. -/
inductive Folds (p : Precision) :
    List Value → List Token → List Event → List Value → Prop
  | nil
      (stack : List Value) :
      Folds p stack [] [] stack
  | numeral
      {cs : List Char} {v : Value}
      {stack stack' : List Value} {rest : List Token} {losses : List Event}
      (hnumeral : Numeral.isNumeral cs = true)
      (hvalue : Numeral.toValue p cs = .ok v)
      (next : Folds p (v :: stack) rest losses stack') :
      Folds p stack (.operand cs :: rest) losses stack'
  | lost
      {cs : List Char} {left right : Value}
      {stack stack' : List Value} {rest : List Token} {losses : List Event}
      (hnumeral : Numeral.isNumeral cs = false)
      (next : Folds p stack rest losses stack') :
      Folds p (right :: left :: stack) (.operand cs :: rest)
        (.discarded cs left right :: losses) stack'
  | operator
      {op : Operator} {left right v : Value}
      {stack stack' : List Value} {rest : List Token} {losses : List Event}
      (hvalue : op.apply left right = .ok v)
      (next : Folds p (v :: stack) rest losses stack') :
      Folds p (right :: left :: stack) (.operator op :: rest) losses stack'

section Folds

variable {p : Precision}
variable {stack stack' : List Value}
variable {tokens : List Token}
variable {losses : List Event}

theorem foldTokens_numeral
    {cs : List Char}
    (h : Numeral.isNumeral cs = true)
    (stack : List Value)
    (rest : List Token) :
    foldTokens p stack (.operand cs :: rest) =
      match Numeral.toValue p cs with
      | .error f => .plain (.error f)
      | .ok v => foldTokens p (v :: stack) rest := by
  rw [foldTokens.eq_def]
  exact if_pos h

theorem foldTokens_lost
    {cs : List Char}
    (h : Numeral.isNumeral cs = false)
    (left right : Value)
    (stack : List Value)
    (rest : List Token) :
    foldTokens p (right :: left :: stack) (.operand cs :: rest) =
      (foldTokens p stack rest).after (.discarded cs left right) := by
  simp [foldTokens, h]

theorem foldTokens_operator
    (op : Operator)
    (left right : Value)
    (stack : List Value)
    (rest : List Token) :
    foldTokens p (right :: left :: stack) (.operator op :: rest) =
      match op.apply left right with
      | .error f => .plain (.error f)
      | .ok v => foldTokens p (v :: stack) rest := by
  rfl

/-- The evaluation goes on from the stack that a fold leads to. -/
theorem Folds.foldTokens_append
    (h : Folds p stack tokens losses stack')
    (rest : List Token) :
    foldTokens p stack (tokens ++ rest) =
      ⟨losses ++ (foldTokens p stack' rest).events, (foldTokens p stack' rest).result⟩ := by
  induction h with
  | nil stack =>
      rfl
  | numeral hnumeral hvalue _ ih =>
      rw [List.cons_append, foldTokens_numeral hnumeral, hvalue]
      exact ih
  | lost hnumeral _ ih =>
      rw [List.cons_append, foldTokens_lost hnumeral, ih]
      rfl
  | operator hvalue _ ih =>
      rw [List.cons_append, foldTokens_operator, hvalue]
      exact ih

/-- Only a stack of one value is concluded with a value. -/
theorem eq_singleton_of_conclude
    {v : Value}
    (h : conclude stack = .ok v) :
    stack = [v] := by
  match stack with
  | [] | _ :: _ :: _ =>
      cases h
  | [_] =>
      cases h
      rfl

/-- One fold after another. -/
theorem Folds.append
    {stack'' : List Value}
    {rest : List Token}
    {losses' : List Event}
    (h : Folds p stack tokens losses stack')
    (next : Folds p stack' rest losses' stack'') :
    Folds p stack (tokens ++ rest) (losses ++ losses') stack'' := by
  induction h with
  | nil stack =>
      exact next
  | numeral hnumeral hvalue _ ih =>
      exact .numeral hnumeral hvalue (ih next)
  | lost hnumeral _ ih =>
      exact .lost hnumeral (ih next)
  | operator hvalue _ ih =>
      exact .operator hvalue (ih next)

/-- A failure of the numbers of an evaluation: a numeral of its tokens has no value, or an operation
of its tokens has none. -/
inductive NumberFailure (p : Precision) (tokens : List Token) (f : Failure) : Prop
  | numeral
      {cs : List Char}
      (hmem : Token.operand cs ∈ tokens)
      (hnumeral : Numeral.isNumeral cs = true)
      (hvalue : Numeral.toValue p cs = .error f)
  | operation
      {op : Operator} {left right : Value}
      (hmem : Token.operator op ∈ tokens)
      (hvalue : op.apply left right = .error f)

theorem NumberFailure.mono
    {f : Failure}
    {more : List Token}
    (h : NumberFailure p tokens f)
    (hmore : tokens ⊆ more) :
    NumberFailure p more f := by
  cases h with
  | numeral hmem hnumeral hvalue =>
      exact .numeral (hmore hmem) hnumeral hvalue
  | operation hmem hvalue =>
      exact .operation (hmore hmem) hvalue

/-- A failure for the number of values: a token finds fewer than two, or not one is left at the end. -/
inductive CountFailure (tokens : List Token) : Failure → Prop
  | missingOperand
      {token : Token}
      (hmem : token ∈ tokens) :
      CountFailure tokens (.missingOperand (String.ofList token.text))
  | noValue :
      CountFailure tokens .noValue
  | valuesLeft
      (count : Nat) :
      CountFailure tokens (.valuesLeft count)

theorem CountFailure.kind
    {f : Failure}
    (h : CountFailure tokens f) :
    f.kind = .malformedExpression := by
  cases h <;> rfl

theorem CountFailure.mono
    {f : Failure}
    {more : List Token}
    (h : CountFailure tokens f)
    (hmore : tokens ⊆ more) :
    CountFailure more f := by
  cases h with
  | missingOperand hmem =>
      exact .missingOperand (hmore hmem)
  | noValue =>
      exact .noValue
  | valuesLeft count =>
      exact .valuesLeft count

/-- One token stops an evaluation, for the number of values that it finds or for a number, or else it
leads on. -/
theorem foldTokens_cases
    (p : Precision)
    (stack : List Value)
    (token : Token) :
    (∃ f : Failure,
      (CountFailure [token] f ∨ NumberFailure p [token] f) ∧
      ∀ rest : List Token, foldTokens p stack (token :: rest) = .plain (.error f)) ∨
    ∃ (losses : List Event) (stack' : List Value), Folds p stack [token] losses stack' := by
  cases token with
  | operand cs =>
      cases hnumeral : Numeral.isNumeral cs with
      | true =>
          cases hvalue : Numeral.toValue p cs with
          | error f =>
              refine .inl ⟨f, .inr (.numeral List.mem_cons_self hnumeral hvalue), ?_⟩
              intro rest
              rw [foldTokens_numeral hnumeral, hvalue]
          | ok v =>
              exact .inr ⟨_, _, .numeral hnumeral hvalue (.nil _)⟩
      | false =>
          match stack with
          | [] | [_] =>
              refine .inl ⟨_, .inl (.missingOperand List.mem_cons_self), ?_⟩
              intro rest
              simp [foldTokens, hnumeral, Token.text]
          | right :: left :: stack =>
              exact .inr ⟨_, _, .lost hnumeral (.nil _)⟩
  | operator op =>
      match stack with
      | [] | [_] =>
          exact .inl ⟨_, .inl (.missingOperand List.mem_cons_self), fun _ => rfl⟩
      | right :: left :: stack =>
          cases hvalue : op.apply left right with
          | error f =>
              refine .inl ⟨f, .inr (.operation List.mem_cons_self hvalue), ?_⟩
              intro rest
              rw [foldTokens_operator, hvalue]
          | ok v =>
              exact .inr ⟨_, _, .operator hvalue (.nil _)⟩

/-- The tokens of an evaluation that has a value fold to that value alone. -/
theorem folds_of_foldTokens
    {v : Value}
    (h : (foldTokens p stack tokens).result = .ok v) :
    Folds p stack tokens (foldTokens p stack tokens).events [v] := by
  induction tokens generalizing stack with
  | nil =>
      rw [eq_singleton_of_conclude h]
      exact .nil _
  | cons token rest ih =>
      rcases foldTokens_cases p stack token with ⟨f, -, hstop⟩ | ⟨losses, stack', hstep⟩
      · rw [hstop] at h
        cases h
      · have hrest := hstep.foldTokens_append rest
        rw [List.singleton_append] at hrest
        rw [hrest] at h ⊢
        exact hstep.append (ih h)

/-- A fold fails for the number of values that it finds, or for a number. -/
theorem foldTokens_failure
    {f : Failure}
    (h : (foldTokens p stack tokens).result = .error f) :
    CountFailure tokens f ∨ NumberFailure p tokens f := by
  induction tokens generalizing stack with
  | nil =>
      match stack with
      | [] =>
          cases h
          exact .inl .noValue
      | _ :: _ :: _ =>
          cases h
          exact .inl (.valuesLeft _)
      | [_] =>
          cases h
  | cons token rest ih =>
      rcases foldTokens_cases p stack token with ⟨g, hcause, hstop⟩ | ⟨losses, stack', hstep⟩
      · rw [hstop] at h
        cases h
        have hmore : [token] ⊆ token :: rest := by simp
        exact hcause.imp (fun hcount => hcount.mono hmore) fun hnumber => hnumber.mono hmore
      · have hrest := hstep.foldTokens_append rest
        rw [List.singleton_append] at hrest
        rw [hrest] at h
        have hmore : rest ⊆ token :: rest := List.subset_cons_self token rest
        exact (ih h).imp (fun hcount => hcount.mono hmore) fun hnumber => hnumber.mono hmore

/-- An evaluation that has a value is a fold of its postfix form to that value alone. -/
theorem folds_of_evaluate
    {cs : List Char}
    {v : Value}
    (h : (evaluate p cs).result = .ok v) :
    ∃ (tokens : List Token) (losses : List Event),
      toPostfix (insertProducts cs) = .ok tokens ∧
      Folds p [] tokens losses [v] ∧
      evaluate p cs = ⟨.converted tokens :: losses, .ok v⟩ := by
  unfold evaluate at h ⊢
  cases htokens : toPostfix (insertProducts cs) with
  | error f =>
      rw [htokens] at h
      cases h
  | ok tokens =>
      rw [htokens] at h
      refine ⟨tokens, _, rfl, folds_of_foldTokens h, ?_⟩
      rw [← show (foldTokens p [] tokens).result = .ok v from h]
      rfl

/-- Values below the stack are left alone. -/
theorem Folds.above
    (h : Folds p stack tokens losses stack')
    (below : List Value) :
    Folds p (stack ++ below) tokens losses (stack' ++ below) := by
  induction h with
  | nil stack =>
      exact .nil _
  | numeral hnumeral hvalue _ ih =>
      exact .numeral hnumeral hvalue ih
  | lost hnumeral _ ih =>
      exact .lost hnumeral ih
  | operator hvalue _ ih =>
      exact .operator hvalue ih

/-- The losses of a fold are what an evaluation warns of. -/
theorem Folds.isWarning
    (h : Folds p stack tokens losses stack') :
    ∀ loss ∈ losses, loss.isWarning = true := by
  induction h with
  | nil =>
      simp
  | numeral _ _ _ ih | operator _ _ ih =>
      exact ih
  | lost _ _ ih =>
      exact List.forall_mem_cons.mpr ⟨rfl, ih⟩

/-- So where it warns of nothing, nothing is lost. -/
theorem Folds.losses_eq_nil_of_warnings
    (h : Folds p stack tokens losses stack')
    {α : Type}
    {result : Except Failure α}
    (hwarnings : (Outcome.mk losses result).warnings = []) :
    losses = [] := by
  simpa [Outcome.warnings, List.filter_eq_self.mpr h.isWarning] using hwarnings

/-- The number of values that a token adds to the stack. -/
def Token.balance : Token → Int
  | operand cs => if Numeral.isNumeral cs then 1 else -2
  | operator _ => -1

/-- The number of values that tokens add to the stack. -/
def balance : List Token → Int
  | [] => 0
  | token :: rest => token.balance + balance rest

@[simp] theorem balance_nil :
    balance [] = 0 := by
  rfl

@[simp] theorem balance_cons
    (token : Token)
    (rest : List Token) :
    balance (token :: rest) = token.balance + balance rest := by
  rfl

@[simp] theorem balance_append
    (left right : List Token) :
    balance (left ++ right) = balance left + balance right := by
  induction left with
  | nil =>
      simp
  | cons token rest ih =>
      rw [List.cons_append, balance_cons, balance_cons, ih, Int.add_assoc]

/-- The number of values changes by the balance of the tokens. -/
theorem Folds.length_eq
    (h : Folds p stack tokens losses stack') :
    (stack'.length : Int) = stack.length + balance tokens := by
  induction h with
  | nil stack =>
      simp
  | numeral hnumeral _ _ ih =>
      rw [ih, balance_cons, Token.balance, if_pos hnumeral, List.length_cons]
      omega
  | lost hnumeral _ ih =>
      rw [ih, balance_cons, Token.balance, if_neg (Bool.eq_false_iff.mp hnumeral),
        List.length_cons, List.length_cons]
      omega
  | operator _ _ ih =>
      rw [ih, balance_cons, Token.balance, List.length_cons, List.length_cons, List.length_cons]
      omega

end Folds

end Expression
end Reckoner
