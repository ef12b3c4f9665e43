import Reckoner.Proofs.Expression.FailureCauses
import Reckoner.Proofs.Expression.ImpliedProducts

/-!
# Matching parentheses

A conversion keeps its open parentheses on the stack on which operators wait, and three loops take
operators from there.  None of them takes a parenthesis, so the parentheses on the stack are those that
the text has opened and not closed, whatever else it holds.  They alone decide whether the text has a
postfix form, and since the implied products are written without touching them, they are what an
evaluation looks at first.

**Results.**
* `openAfter_eq_none_iff`, `count_of_openAfter`: counting open parentheses.
* `balanced_parentheses_iff`: where none is left open, and none is closed that is not, they match.
* `Conversion.step_depth`, `Conversion.run_depth`: the stack of a conversion keeps this count.
* `toPostfix_depth`: what a conversion comes to.
* `evaluate_parentheses`: conversions and evaluations by the parentheses of their text.
-/

namespace Reckoner
namespace Expression

/-- The parentheses of a text in their order. -/
def parentheses (cs : List Char) : List Char :=
  cs.filter fun c => c == '(' || c == ')'

/-- Parentheses in matching pairs. -/
inductive Balanced : List Char → Prop
  | nil :
      Balanced []
  | pair
      {inner rest : List Char}
      (hinner : Balanced inner)
      (hrest : Balanced rest) :
      Balanced ('(' :: (inner ++ ')' :: rest))

/-- A text closes, somewhere on the way, more parentheses than it has opened. -/
def ClosesTooMany (cs : List Char) : Prop :=
  ∃ start : List Char, start <+: cs ∧ start.count '(' < start.count ')'

/-- The number of open parentheses after a text, unless it closes one where none is open. -/
def openAfter (depth : Nat) : List Char → Option Nat
  | [] => some depth
  | c :: rest =>
      if c = '(' then openAfter (depth + 1) rest
      else if c = ')' then
        match depth with
        | 0 => none
        | depth + 1 => openAfter depth rest
      else openAfter depth rest

section Counting

@[simp] theorem openAfter_nil
    (depth : Nat) :
    openAfter depth [] = some depth := by
  rfl

@[simp] theorem openAfter_opening
    (depth : Nat)
    (cs : List Char) :
    openAfter depth ('(' :: cs) = openAfter (depth + 1) cs := by
  rfl

@[simp] theorem openAfter_closing_zero
    (cs : List Char) :
    openAfter 0 (')' :: cs) = none := by
  rfl

@[simp] theorem openAfter_closing_succ
    (depth : Nat)
    (cs : List Char) :
    openAfter (depth + 1) (')' :: cs) = openAfter depth cs := by
  rfl

theorem openAfter_other
    {c : Char}
    (hopening : c ≠ '(')
    (hclosing : c ≠ ')')
    (depth : Nat)
    (cs : List Char) :
    openAfter depth (c :: cs) = openAfter depth cs := by
  simp [openAfter, hopening, hclosing]

/-- The count goes on over joined texts. -/
theorem openAfter_append
    (depth : Nat)
    (cs ds : List Char) :
    openAfter depth (cs ++ ds) = (openAfter depth cs).bind fun count => openAfter count ds := by
  induction depth, cs using openAfter.induct with
  | case1 depth =>
      rfl
  | case2 depth rest ih =>
      exact ih
  | case3 rest _ =>
      rfl
  | case4 rest depth _ ih =>
      exact ih
  | case5 depth c rest hopening hclosing ih =>
      rw [List.cons_append, openAfter_other hopening hclosing, openAfter_other hopening hclosing, ih]

/-- It does not see what is no parenthesis. -/
theorem openAfter_parentheses
    (depth : Nat)
    (cs : List Char) :
    openAfter depth (parentheses cs) = openAfter depth cs := by
  induction depth, cs using openAfter.induct with
  | case1 depth =>
      rfl
  | case2 depth rest ih =>
      exact ih
  | case3 rest _ =>
      rfl
  | case4 rest depth _ ih =>
      exact ih
  | case5 depth c rest hopening hclosing ih =>
      have hdropped : parentheses (c :: rest) = parentheses rest := by
        simp [parentheses, hopening, hclosing]
      rw [hdropped, openAfter_other hopening hclosing, ih]

/-- The parts of a text from its start on that close more parentheses than are open, by its first
character. -/
theorem exists_closing_cons_iff
    (depth : Nat)
    (c : Char)
    (rest : List Char) :
    (∃ start : List Char, start <+: c :: rest ∧ depth + start.count '(' < start.count ')') ↔
      ∃ start : List Char,
        start <+: rest ∧ depth + (c :: start).count '(' < (c :: start).count ')' := by
  constructor
  · rintro ⟨start, hprefix, hlt⟩
    rcases List.prefix_cons_iff.mp hprefix with rfl | ⟨start', rfl, hprefix'⟩
    · simp at hlt
    · exact ⟨start', hprefix', hlt⟩
  · rintro ⟨start, hprefix, hlt⟩
    exact ⟨c :: start, List.cons_prefix_cons.mpr ⟨rfl, hprefix⟩, hlt⟩

/-- The count fails where a part of the text from its start on closes more than is open. -/
theorem openAfter_eq_none_iff
    (depth : Nat)
    (cs : List Char) :
    openAfter depth cs = none ↔
      ∃ start : List Char, start <+: cs ∧ depth + start.count '(' < start.count ')' := by
  induction depth, cs using openAfter.induct with
  | case1 depth =>
      simp
  | case2 depth rest ih =>
      rw [openAfter_opening, ih, exists_closing_cons_iff]
      refine exists_congr fun start => and_congr_right fun _ => ?_
      simp [Nat.add_assoc, Nat.add_comm 1]
  | case3 rest _ =>
      rw [exists_closing_cons_iff]
      exact iff_of_true rfl ⟨[], List.nil_prefix, by simp⟩
  | case4 rest depth _ ih =>
      rw [openAfter_closing_succ, ih, exists_closing_cons_iff]
      refine exists_congr fun start => and_congr_right fun _ => ?_
      simp
      omega
  | case5 depth c rest hopening hclosing ih =>
      rw [openAfter_other hopening hclosing, ih, exists_closing_cons_iff]
      simp [List.count_cons_of_ne hopening, List.count_cons_of_ne hclosing]

/-- Otherwise it is that of the parentheses opened less those closed. -/
theorem count_of_openAfter
    {depth left : Nat}
    {cs : List Char}
    (h : openAfter depth cs = some left) :
    depth + cs.count '(' = left + cs.count ')' := by
  induction depth, cs using openAfter.induct with
  | case1 depth =>
      cases h
      rfl
  | case2 depth rest ih =>
      have := ih h
      simp
      omega
  | case3 rest _ =>
      cases h
  | case4 rest depth _ ih =>
      have := ih h
      simp
      omega
  | case5 depth c rest hopening hclosing ih =>
      rw [openAfter_other hopening hclosing] at h
      simpa [List.count_cons_of_ne hopening, List.count_cons_of_ne hclosing] using ih h

end Counting

section Matching

/-- Matching parentheses leave the count as it was. -/
theorem Balanced.openAfter_eq
    {cs : List Char}
    (h : Balanced cs)
    (depth : Nat) :
    openAfter depth cs = some depth := by
  induction h generalizing depth with
  | nil =>
      rfl
  | @pair inner rest _ _ ihinner ihrest =>
      rw [openAfter_opening, openAfter_append, ihinner, Option.bind_some, openAfter_closing_succ, ihrest]

/-- Matching parentheses, with some in between that close what was open before. -/
inductive Closes : Nat → List Char → Prop
  | none
      {cs : List Char}
      (h : Balanced cs) :
      Closes 0 cs
  | more
      {depth : Nat}
      {inner rest : List Char}
      (hinner : Balanced inner)
      (hrest : Closes depth rest) :
      Closes (depth + 1) (inner ++ ')' :: rest)

/-- A parenthesis that is opened before is closed by the first that closes none of the others. -/
theorem Closes.opening
    {depth : Nat}
    {cs : List Char}
    (h : Closes (depth + 1) cs) :
    Closes depth ('(' :: cs) := by
  cases h with
  | @more _ inner rest hinner hrest =>
      cases hrest with
      | none hbalanced =>
          exact .none (.pair hinner hbalanced)
      | @more depth inner' rest' hinner' hrest' =>
          have hjoined := Closes.more (Balanced.pair hinner hinner') hrest'
          simpa using hjoined

/-- Parentheses that leave none open close those that were open before, and match besides. -/
theorem closes_of_openAfter
    {depth : Nat}
    {cs : List Char}
    (hcs : ∀ c ∈ cs, c = '(' ∨ c = ')')
    (h : openAfter depth cs = some 0) :
    Closes depth cs := by
  induction depth, cs using openAfter.induct with
  | case1 depth =>
      cases h
      exact .none .nil
  | case2 depth rest ih =>
      exact (ih (fun c hc => hcs c (List.mem_cons_of_mem _ hc)) h).opening
  | case3 rest _ =>
      cases h
  | case4 rest depth _ ih =>
      exact .more .nil (ih (fun c hc => hcs c (List.mem_cons_of_mem _ hc)) h)
  | case5 depth c rest hopening hclosing ih =>
      rcases hcs c List.mem_cons_self with hc | hc
      · exact absurd hc hopening
      · exact absurd hc hclosing

/-- The parentheses of a text match if none is left open, and none is closed that is not. -/
theorem balanced_parentheses_iff
    (cs : List Char) :
    Balanced (parentheses cs) ↔ openAfter 0 cs = some 0 := by
  rw [← openAfter_parentheses]
  constructor
  · intro h
    exact h.openAfter_eq 0
  · intro h
    have hcloses : Closes 0 (parentheses cs) := by
      refine closes_of_openAfter ?_ h
      intro c hc
      simpa using (List.mem_filter.mp hc).2
    cases hcloses with
    | none hbalanced =>
        exact hbalanced

end Matching

/-- The products that are written leave the parentheses alone. -/
theorem parentheses_insertProductsAfter
    (left : Char)
    (cs : List Char) :
    parentheses (insertProductsAfter left cs) = parentheses cs := by
  induction cs generalizing left with
  | nil =>
      rfl
  | cons c cs ih =>
      have hrest : parentheses (c :: insertProductsAfter c cs) = parentheses (c :: cs) := by
        simp only [parentheses, List.filter_cons] at ih ⊢
        rw [ih]
      rw [insertProductsAfter]
      split
      · exact hrest
      · exact hrest

theorem parentheses_insertProducts
    (cs : List Char) :
    parentheses (insertProducts cs) = parentheses cs :=
  parentheses_insertProductsAfter ' ' cs

namespace Conversion

/-- The number of open parentheses on the stack of a conversion. -/
def depth (s : Conversion) : Nat :=
  s.stack.count .opening

/-- A release stops at an open parenthesis at the latest. -/
theorem count_release
    (rank : Nat)
    (output : List Token)
    (stack : List Waiting) :
    (release rank output stack).2.count .opening = stack.count .opening := by
  obtain ⟨released, rest, rfl, hrelease, -, -⟩ := exists_released rank output stack
  have hnone : (released.map Waiting.operator).count .opening = 0 :=
    List.count_eq_zero.mpr (by simp)
  rw [hrelease, List.count_append, hnone, Nat.zero_add]

/-- A release of all operators stops there only. -/
theorem release_zero_cases
    (output : List Token)
    (stack : List Waiting) :
    (∃ output' : List Token, release 0 output stack = (output', [])) ∨
      ∃ (output' : List Token) (below : List Waiting),
        release 0 output stack = (output', .opening :: below) := by
  obtain ⟨released, rest, -, hrelease, -, hrest⟩ := exists_released 0 output stack
  match rest, hrest with
  | [], _ =>
      exact .inl ⟨_, hrelease⟩
  | .opening :: below, _ =>
      exact .inr ⟨_, below, hrelease⟩
  | .operator op :: _, hop =>
      exact absurd hop (Nat.not_lt_zero op.rank)

variable (s : Conversion)

/-- A closing parenthesis closes one that is open, or fails. -/
theorem closeGroup_depth :
    (s.depth = 0 ∧ s.closeGroup = .error .unexpectedClosing) ∨
      ∃ s' : Conversion, s.closeGroup = .ok s' ∧ s.depth = s'.depth + 1 := by
  have hcount := count_release 0 s.flush.output s.stack
  unfold closeGroup
  dsimp only
  rw [flush_stack]
  rcases release_zero_cases s.flush.output s.stack with ⟨output, h⟩ | ⟨output, below, h⟩
  · rw [h] at hcount ⊢
    exact .inl ⟨hcount.symm, rfl⟩
  · rw [h] at hcount ⊢
    exact .inr ⟨_, rfl, by simpa [depth] using hcount.symm⟩

/-- At the end none may be open. -/
theorem finish_depth :
    (s.depth = 0 ∧ ∃ tokens : List Token, s.finish = .ok tokens) ∨
      (s.depth ≠ 0 ∧ s.finish = .error .unclosedOpening) := by
  have hcount := count_release 0 s.flush.output s.stack
  unfold finish
  dsimp only
  rw [flush_stack]
  rcases release_zero_cases s.flush.output s.stack with ⟨output, h⟩ | ⟨output, below, h⟩
  · rw [h] at hcount ⊢
    exact .inl ⟨hcount.symm, _, rfl⟩
  · rw [h] at hcount ⊢
    refine .inr ⟨?_, rfl⟩
    rw [depth, ← hcount]
    simp

/-- One character does to the stack what it does to the count. -/
theorem step_depth
    (c : Char) :
    match openAfter s.depth [c] with
    | none => s.step c = .error .unexpectedClosing
    | some count => ∃ s' : Conversion, s.step c = .ok s' ∧ s'.depth = count := by
  by_cases hopening : c = '('
  · subst hopening
    exact ⟨s.openGroup, rfl, by simp [openGroup, depth]⟩
  · by_cases hclosing : c = ')'
    · subst hclosing
      rw [step_closing]
      rcases s.closeGroup_depth with ⟨hdepth, hfail⟩ | ⟨s', hclose, hdepth⟩
      · rw [hdepth]
        exact hfail
      · rw [hdepth]
        exact ⟨s', hclose, rfl⟩
    · rw [openAfter_other hopening hclosing]
      simp only [openAfter_nil, step, if_neg hopening, if_neg hclosing]
      split
      · exact ⟨_, rfl, rfl⟩
      · split
        · refine ⟨_, rfl, ?_⟩
          simp [putOperator, depth, count_release]
        · exact ⟨s, rfl, rfl⟩

/-- So does a text. -/
theorem run_depth
    (cs : List Char) :
    match openAfter s.depth cs with
    | none => run s cs = .error .unexpectedClosing
    | some count => ∃ s' : Conversion, run s cs = .ok s' ∧ s'.depth = count := by
  induction cs generalizing s with
  | nil =>
      exact ⟨s, rfl, rfl⟩
  | cons c cs ih =>
      have hstep := s.step_depth c
      rw [← List.singleton_append, openAfter_append, List.singleton_append, run]
      cases hcount : openAfter s.depth [c] with
      | none =>
          rw [hcount] at hstep
          rw [hstep]
          rfl
      | some count =>
          rw [hcount] at hstep
          obtain ⟨s', hs', hdepth⟩ := hstep
          rw [hs', Option.bind_some, ← hdepth]
          exact ih s'

end Conversion

/-- A text is converted if its parentheses match, and fails otherwise for the first that does not. -/
theorem toPostfix_depth
    (cs : List Char) :
    match openAfter 0 cs with
    | none => toPostfix cs = .error .unexpectedClosing
    | some 0 => ∃ tokens : List Token, toPostfix cs = .ok tokens
    | some (_ + 1) => toPostfix cs = .error .unclosedOpening := by
  have hrun := Conversion.run_depth {} cs
  change match openAfter 0 cs with
    | none => _
    | some count => _ at hrun
  unfold toPostfix
  cases hcount : openAfter 0 cs with
  | none =>
      rw [hcount] at hrun
      rw [hrun]
  | some count =>
      rw [hcount] at hrun
      obtain ⟨s, hs, hdepth⟩ := hrun
      rw [hs]
      dsimp only
      rcases s.finish_depth with ⟨hzero, htokens⟩ | ⟨hopen, hfail⟩
      · rw [← hdepth, hzero]
        exact htokens
      · cases count with
        | zero =>
            exact absurd hdepth hopen
        | succ count =>
            exact hfail

theorem closesTooMany_iff
    (cs : List Char) :
    ClosesTooMany cs ↔ openAfter 0 cs = none := by
  rw [openAfter_eq_none_iff, ClosesTooMany]
  simp

/-- So they leave the count alone. -/
theorem openAfter_insertProducts
    (cs : List Char) :
    openAfter 0 (insertProducts cs) = openAfter 0 cs := by
  rw [← openAfter_parentheses, parentheses_insertProducts, openAfter_parentheses]

section Numbers

variable {p : Precision}
variable {cs : List Char}
variable {f : Failure}

/-- No numeral is malformed as an expression, whatever the precision. -/
theorem toValue_not_malformed
    (h : Numeral.toValue p cs = .error f) :
    f.kind ≠ .malformedExpression := by
  have scaled :
      ∀ number : Number,
        Value.ofNumber number p.scale = .error f → f.kind ≠ .malformedExpression := by
    intro number hnumber
    unfold Value.ofNumber at hnumber
    split at hnumber
    · cases hnumber
      rcases (Failure.scaleBelowOne p.scale).kind_worded with hkind | hkind <;>
      · rw [hkind]
        simp [Failure.kind]
    · cases hnumber
  unfold Numeral.toValue at h
  split at h
  · cases h
    simp [Failure.kind]
  · split at h
    · exact scaled _ h
    · split at h
      · next g hg =>
          cases h
          rcases (Numeral.toRational_failure hg).1 with hkind | hkind <;> simp [hkind]
      · exact scaled _ h

/-- Nor does the fold of a postfix form fail for parentheses. -/
theorem foldTokens_not_parentheses
    {stack : List Value}
    {tokens : List Token}
    (h : (foldTokens p stack tokens).result = .error f) :
    f ≠ .unexpectedClosing ∧ f ≠ .unclosedOpening := by
  rcases foldTokens_failure h with hcount | hnumber
  · cases hcount <;> simp
  · have hkind : f.kind ≠ .malformedExpression := by
      cases hnumber with
      | numeral _ _ hvalue =>
          exact toValue_not_malformed hvalue
      | operation _ hvalue =>
          rcases Operator.apply_failure hvalue with hkind | hkind <;> simp [hkind]
    constructor <;>
    · rintro rfl
      exact hkind rfl

end Numbers

/-- A text is converted exactly if its parentheses match.  It has one that is unexpected if some part
of it from its start on closes more than it opens, and one that is left open if there is no such part
and it opens more than it closes.  Writing the implied products leaves the parentheses alone, so an
evaluation whose parentheses do not match fails for them, before any of its tokens is looked at, and no
other does. -/
theorem evaluate_parentheses
    (cs : List Char) :
    ((∃ tokens : List Token, toPostfix cs = .ok tokens) ↔ Balanced (parentheses cs)) ∧
    (toPostfix cs = .error .unexpectedClosing ↔ ClosesTooMany cs) ∧
    (toPostfix cs = .error .unclosedOpening ↔
      ¬ ClosesTooMany cs ∧ cs.count '(' ≠ cs.count ')') ∧
    parentheses (insertProducts cs) = parentheses cs ∧
    ∀ p : Precision,
      (ClosesTooMany cs → evaluate p cs = .plain (.error .unexpectedClosing)) ∧
      (¬ ClosesTooMany cs ∧ cs.count '(' ≠ cs.count ')' →
        evaluate p cs = .plain (.error .unclosedOpening)) ∧
      (¬ Balanced (parentheses cs) →
        evaluate p cs = .plain (.error .unexpectedClosing) ∨
          evaluate p cs = .plain (.error .unclosedOpening)) ∧
      (Balanced (parentheses cs) → ∀ f : Failure,
        (evaluate p cs).result = .error f → f ≠ .unexpectedClosing ∧ f ≠ .unclosedOpening) := by
  have hconverted := toPostfix_depth cs
  have hwritten := toPostfix_depth (insertProducts cs)
  rw [openAfter_insertProducts] at hwritten
  rw [balanced_parentheses_iff, closesTooMany_iff]
  cases hcount : openAfter 0 cs with
  | none =>
      rw [hcount] at hconverted hwritten
      have hevaluate : ∀ p : Precision, evaluate p cs = .plain (.error .unexpectedClosing) := by
        intro p
        rw [evaluate, hwritten]
      simp [hconverted, hevaluate, parentheses_insertProducts]
  | some count =>
      have htotal := count_of_openAfter hcount
      cases count with
      | zero =>
          rw [hcount] at hconverted hwritten
          obtain ⟨tokens, htokens⟩ := hconverted
          obtain ⟨tokens', htokens'⟩ := hwritten
          have hsame : cs.count '(' = cs.count ')' := by
            omega
          have hevaluate :
              ∀ (p : Precision) (f : Failure),
                (evaluate p cs).result = .error f → f ≠ .unexpectedClosing ∧ f ≠ .unclosedOpening := by
            intro p f hf
            rw [evaluate, htokens'] at hf
            exact foldTokens_not_parentheses hf
          simpa [htokens, hsame, parentheses_insertProducts] using hevaluate
      | succ count =>
          rw [hcount] at hconverted hwritten
          have hevaluate : ∀ p : Precision, evaluate p cs = .plain (.error .unclosedOpening) := by
            intro p
            rw [evaluate, hwritten]
          have hdiffers : cs.count '(' ≠ cs.count ')' := by
            omega
          simp [hconverted, hevaluate, hdiffers, parentheses_insertProducts]

/-- A quotient by zero between parentheses of which the last is closed twice: it is never met. -/
theorem evaluate_parentheses_before_quotient :
    ClosesTooMany "((5/0))+1)*(2".toList ∧
    evaluate {} "((5/0))+1)*(2".toList = .plain (.error .unexpectedClosing) := by
  have hcloses : ClosesTooMany "((5/0))+1)*(2".toList :=
    ⟨"((5/0))+1)".toList, ⟨"*(2".toList, rfl⟩, by decide⟩
  exact ⟨hcloses, ((evaluate_parentheses "((5/0))+1)*(2".toList).2.2.2.2 {}).1 hcloses⟩

end Expression
end Reckoner
