import Reckoner.Proofs.Expression.Grammar

/-!
# The operator stack

A conversion keeps operators waiting until the text shows that nothing binds more tightly.  After a
text of a layer of the grammar, what the text has left waiting on top of the stack is exactly what a
further operator of that layer releases, and once it is released the output has grown by the tokens
of the text's tree in post-order, while the stack is the one from before the text.

**Results.**
* `run_append`: the steps over joined texts.
* `run_invariant`: what every step keeps, a whole text does.
* `exists_released`: what a release writes and what it leaves.
* `release_release`: a release of few operators is part of a release of more.
* `Derives.readsAs`: the invariant above, for every layer.
* `toPostfix_of_derives`: the postfix form of an expression is its tree in post-order.
-/

namespace Reckoner
namespace Expression
namespace Conversion

/-- The steps over joined texts. -/
theorem run_append
    (s : Conversion)
    (cs ds : List Char) :
    run s (cs ++ ds) =
      match run s cs with
      | .error f => .error f
      | .ok s' => run s' ds := by
  induction cs generalizing s with
  | nil =>
      rfl
  | cons c cs ih =>
      rw [List.cons_append, run, run]
      cases step s c with
      | error f =>
          rfl
      | ok s' =>
          exact ih s'

/-- What every step keeps, with what remains of the text, is kept by the steps over a text. -/
theorem run_invariant
    {P : Conversion → List Char → Prop}
    (hstep :
      ∀ (s s' : Conversion) (c : Char) (rest : List Char),
        P s (c :: rest) → s.step c = .ok s' → P s' rest)
    {s s' : Conversion}
    {cs : List Char}
    (h : P s cs)
    (hrun : run s cs = .ok s') :
    P s' [] := by
  induction cs generalizing s with
  | nil =>
      cases hrun
      exact h
  | cons c cs ih =>
      rw [run] at hrun
      cases hc : s.step c with
      | error f =>
          rw [hc] at hrun
          cases hrun
      | ok s₁ =>
          rw [hc] at hrun
          exact ih (hstep s s₁ c cs h hc) hrun

theorem run_append_of_run
    {s s' : Conversion}
    {cs : List Char}
    (h : run s cs = .ok s')
    (ds : List Char) :
    run s (cs ++ ds) = run s' ds := by
  rw [run_append, h]

section Steps

variable (s : Conversion)

theorem step_operandChar
    {c : Char}
    (h : isOperandChar c = true) :
    s.step c = .ok { s with operand := c :: s.operand } := by
  simp [step, h]

theorem step_opening :
    s.step '(' = .ok s.openGroup := by
  rfl

theorem step_closing :
    s.step ')' = s.closeGroup := by
  rfl

theorem step_symbol
    (op : Operator) :
    s.step op.symbol = .ok (s.putOperator op) := by
  cases op <;> rfl

/-- A run of operand characters is collected. -/
theorem run_operandChars
    {cs : List Char}
    (h : ∀ c ∈ cs, isOperandChar c = true) :
    run s cs = .ok { s with operand := cs.reverse ++ s.operand } := by
  induction cs generalizing s with
  | nil =>
      rfl
  | cons c cs ih =>
      have hc : isOperandChar c = true :=
        h c (by simp)
      have hrest := ih { s with operand := c :: s.operand } (fun d hd => h d (by simp [hd]))
      rw [run, step_operandChar s hc]
      simpa using hrest

/-- No operand is being read after a flush. -/
@[simp] theorem flush_operand :
    s.flush.operand = [] := by
  unfold flush
  split <;> simp_all

/-- A flush leaves the stack alone. -/
@[simp] theorem flush_stack :
    s.flush.stack = s.stack := by
  unfold flush
  split <;> rfl

end Steps

/-- What a closing parenthesis does, if it closes anything. -/
theorem closeGroup_eq_ok
    {s s' : Conversion}
    (h : s.closeGroup = .ok s') :
    ∃ (output : List Token) (stack : List Waiting),
      release 0 s.flush.output s.stack = (output, .opening :: stack) ∧
      s' = ⟨output, [], stack⟩ := by
  unfold closeGroup at h
  dsimp only at h
  rw [flush_stack] at h
  split at h
  · next output stack heq =>
      refine ⟨output, stack, heq, ?_⟩
      rw [← Except.ok.inj h, flush_operand]
  · cases h

/-- Everything that one character can do. -/
theorem step_cases
    {s s' : Conversion}
    {c : Char}
    (h : s.step c = .ok s') :
    (isOperandChar c = true ∧ s' = { s with operand := c :: s.operand }) ∨
    (c = '(' ∧ s' = s.openGroup) ∨
    (c = ')' ∧ s.closeGroup = .ok s') ∨
    (∃ op : Operator, c = op.symbol ∧ s' = s.putOperator op) ∨
    (isOperandChar c = false ∧ c ≠ '(' ∧ c ≠ ')' ∧ Operator.ofChar? c = none ∧ s' = s) := by
  unfold step at h
  split at h
  · next hc =>
      exact .inl ⟨hc, (Except.ok.inj h).symm⟩
  · next hc =>
      split at h
      · next hopening =>
          exact .inr (.inl ⟨hopening, (Except.ok.inj h).symm⟩)
      · next hopening =>
          split at h
          · next hclosing =>
              exact .inr (.inr (.inl ⟨hclosing, h⟩))
          · next hclosing =>
              split at h
              · next op hop =>
                  have hsymbol := (Operator.symbol_of_ofChar? hop).symm
                  exact .inr (.inr (.inr (.inl ⟨op, hsymbol, (Except.ok.inj h).symm⟩)))
              · next hnone =>
                  have hs := (Except.ok.inj h).symm
                  refine .inr (.inr (.inr (.inr ⟨?_, hopening, hclosing, hnone, hs⟩)))
                  exact Bool.eq_false_iff.mpr hc

/-- Whether the operator on top of a stack, if there is one, binds less than a rank. -/
def BindsLess (rank : Nat) : List Waiting → Prop
  | .operator op :: _ => op.rank < rank
  | _ => True

theorem BindsLess.mono
    {low high : Nat}
    (h : low ≤ high)
    {stack : List Waiting}
    (hstack : BindsLess low stack) :
    BindsLess high stack := by
  match stack, hstack with
  | [], _ | .opening :: _, _ =>
      trivial
  | .operator op :: _, hop =>
      exact Nat.lt_of_lt_of_le hop h

/-- Nothing is released where the top binds less. -/
theorem release_of_bindsLess
    {rank : Nat}
    {stack : List Waiting}
    (h : BindsLess rank stack)
    (output : List Token) :
    release rank output stack = (output, stack) := by
  match stack, h with
  | [], _ =>
      simp [release]
  | .opening :: _, _ =>
      simp [release]
  | .operator op :: _, h =>
      have hnot : ¬ rank ≤ op.rank :=
        Nat.not_le.mpr h
      simp [release, hnot]

/-- What a release does: operators from the top of the stack on that bind at least as tightly are written,
and what binds less is left on top. -/
theorem exists_released
    (rank : Nat)
    (output : List Token)
    (stack : List Waiting) :
    ∃ (released : List Operator) (rest : List Waiting),
      stack = released.map .operator ++ rest ∧
      release rank output stack = ((released.map Token.operator).reverse ++ output, rest) ∧
      (∀ op ∈ released, rank ≤ op.rank) ∧
      BindsLess rank rest := by
  induction stack generalizing output with
  | nil =>
      exact ⟨[], [], rfl, by simp [release], by simp, trivial⟩
  | cons w stack ih =>
      cases w with
      | opening =>
          exact ⟨[], .opening :: stack, rfl, by simp [release], by simp, trivial⟩
      | operator op =>
          by_cases hop : rank ≤ op.rank
          · obtain ⟨released, rest, rfl, hrelease, hreleased, hrest⟩ := ih (.operator op :: output)
            refine ⟨op :: released, rest, rfl, ?_, List.forall_mem_cons.mpr ⟨hop, hreleased⟩, hrest⟩
            rw [release, if_pos hop, hrelease]
            simp
          · refine ⟨[], .operator op :: stack, rfl, ?_, by simp, Nat.lt_of_not_le hop⟩
            rw [release, if_neg hop]
            rfl

/-- A release of few operators is part of a release of more. -/
theorem release_release
    {low high : Nat}
    (h : low ≤ high)
    (output : List Token)
    (stack : List Waiting) :
    release low (release high output stack).1 (release high output stack).2 =
      release low output stack := by
  induction stack generalizing output with
  | nil =>
      simp [release]
  | cons w stack ih =>
      cases w with
      | opening =>
          simp [release]
      | operator op =>
          by_cases hop : high ≤ op.rank
          · have hlow : low ≤ op.rank :=
              Nat.le_trans h hop
            simp only [release, if_pos hop, if_pos hlow]
            exact ih _
          · simp only [release, if_neg hop]

/-- What a conversion has written and what still waits, once the operand that is being read and all
operators on top that bind at least as tightly as a rank are written. -/
def Settles
    (rank : Nat)
    (s : Conversion)
    (output : List Token)
    (stack : List Waiting) : Prop :=
  release rank s.flush.output s.stack = (output, stack)

section Settles

variable {s : Conversion} {output : List Token} {stack : List Waiting}

/-- The same for a lower rank, where the stack binds less than that. -/
theorem Settles.lower
    {low high : Nat}
    (hs : Settles high s output stack)
    (h : low ≤ high)
    (hstack : BindsLess low stack) :
    Settles low s output stack := by
  have hboth := release_release h s.flush.output s.stack
  rw [show release high s.flush.output s.stack = (output, stack) from hs] at hboth
  rw [Settles, ← hboth]
  exact release_of_bindsLess hstack output

/-- An operator that waits on top of a settled stack is written by a release of its rank. -/
theorem Settles.release_operator
    {high : Nat}
    {op : Operator}
    (hs : Settles high s output (.operator op :: stack))
    (h : op.rank ≤ high)
    (hstack : BindsLess op.rank stack) :
    Settles op.rank s (.operator op :: output) stack := by
  have hboth := release_release h s.flush.output s.stack
  rw [show release high s.flush.output s.stack = (output, .operator op :: stack) from hs]
    at hboth
  rw [Settles, ← hboth]
  simp only [release, if_pos (Nat.le_refl _)]
  exact release_of_bindsLess hstack _

/-- An operator is put on what its rank leaves waiting. -/
theorem Settles.putOperator
    {op : Operator}
    (hs : Settles op.rank s output stack) :
    s.putOperator op = ⟨output, [], .operator op :: stack⟩ := by
  rw [Settles] at hs
  simp [Conversion.putOperator, hs]

/-- A closing parenthesis takes its opening one from the stack. -/
theorem Settles.closeGroup
    (hs : Settles 0 s output (.opening :: stack)) :
    s.closeGroup = .ok ⟨output, [], stack⟩ := by
  rw [Settles] at hs
  simp [Conversion.closeGroup, hs]

/-- At the end nothing may wait. -/
theorem Settles.finish
    (hs : Settles 0 s output []) :
    s.finish = .ok output.reverse := by
  rw [Settles] at hs
  simp [Conversion.finish, hs]

end Settles

/-- A text is read as the tokens of a tree: after any output, and on any stack that binds less than
a rank, it settles to the tokens and that stack. -/
def ReadsAs (rank : Nat) (cs : List Char) (t : Tree) : Prop :=
  ∀ (output : List Token) (stack : List Waiting),
    BindsLess rank stack →
    ∃ s : Conversion,
      run ⟨output, [], stack⟩ cs = .ok s ∧
      Settles rank s (t.postorder.reverse ++ output) stack

namespace ReadsAs

variable {rank : Nat} {cs ds : List Char} {t u : Tree}

/-- The same for a lower rank. -/
theorem lower
    {low high : Nat}
    (h : ReadsAs high cs t)
    (hle : low ≤ high) :
    ReadsAs low cs t := by
  intro output stack hstack
  obtain ⟨s, hrun, hsettles⟩ := h output stack (hstack.mono hle)
  exact ⟨s, hrun, hsettles.lower hle hstack⟩

/-- A run of digits and points is read as one operand. -/
theorem of_operandRun
    (h : OperandRun cs)
    (rank : Nat) :
    ReadsAs rank cs (.numeral cs) := by
  obtain ⟨hne, hchars⟩ := h
  intro output stack hstack
  refine ⟨⟨output, cs.reverse, stack⟩, ?_, ?_⟩
  · simpa using run_operandChars ⟨output, [], stack⟩ hchars
  · obtain ⟨c, rest, hrev⟩ :=
      List.exists_cons_of_ne_nil (mt List.reverse_eq_nil_iff.mp hne)
    have hflush :
        flush ⟨output, cs.reverse, stack⟩ = ⟨.operand cs :: output, [], stack⟩ := by
      have hback : (c :: rest).reverse = cs := by
        rw [← hrev, List.reverse_reverse]
      simp only [flush, hrev, hback]
    rw [Settles, hflush]
    exact release_of_bindsLess hstack _

/-- Parentheses around a text leave nothing of it waiting. -/
theorem group
    (h : ReadsAs rank cs t)
    (high : Nat) :
    ReadsAs high ('(' :: (cs ++ [')'])) t := by
  intro output stack hstack
  obtain ⟨s, hrun, hsettles⟩ := h output (.opening :: stack) trivial
  refine ⟨⟨t.postorder.reverse ++ output, [], stack⟩, ?_, ?_⟩
  · have hclose := (hsettles.lower (Nat.zero_le _) trivial).closeGroup
    rw [run, step_opening]
    change run ⟨output, [], .opening :: stack⟩ (cs ++ [')']) = _
    rw [run_append_of_run hrun, run, step_closing, hclose]
    rfl
  · exact release_of_bindsLess hstack _

/-- An operator chains a text that is read at its rank and one that is read above it. -/
theorem chain
    {op : Operator}
    {high : Nat}
    (hleft : ReadsAs op.rank cs t)
    (hright : ReadsAs high ds u)
    (hlt : op.rank < high) :
    ReadsAs op.rank (cs ++ op.symbol :: ds) (.operation op t u) := by
  intro output stack hstack
  obtain ⟨s, hrun, hsettles⟩ := hleft output stack hstack
  obtain ⟨s', hrun', hsettles'⟩ :=
    hright (t.postorder.reverse ++ output) (.operator op :: stack) hlt
  refine ⟨s', ?_, ?_⟩
  · rw [run_append_of_run hrun, run, step_symbol, hsettles.putOperator]
    exact hrun'
  · simpa [Tree.postorder] using
      hsettles'.release_operator (Nat.le_of_lt hlt) hstack

end ReadsAs

end Conversion

open Conversion

/-- A text of a layer is read as its tree, at the rank of the layer. -/
theorem Derives.readsAs
    {leaf : List Char → Prop}
    (hleaf : ∀ cs, leaf cs → OperandRun cs)
    {level : Level} {cs : List Char} {t : Tree}
    (d : Derives leaf NoGap level cs t) :
    ReadsAs level.rank cs t := by
  induction d with
  | @numeral cs h =>
      exact .of_operandRun (hleaf cs h) _
  | group _ ih =>
      exact ih.group _
  | ofFactor _ ih | ofTerm _ ih =>
      exact ih.lower (by decide)
  | product op hop _ _ ihl ihr | sum op hop _ _ ihl ihr =>
      rw [← hop] at ihl ⊢
      exact ihl.chain ihr (hop ▸ by decide)
  | implied hgap =>
      exact hgap.elim

/-- The postfix form of an expression is its tree in post-order. -/
theorem toPostfix_of_derives
    {leaf : List Char → Prop}
    (hleaf : ∀ cs, leaf cs → OperandRun cs)
    {cs : List Char} {t : Tree}
    (d : Derives leaf NoGap .expression cs t) :
    toPostfix cs = .ok t.postorder := by
  obtain ⟨s, hrun, hsettles⟩ := d.readsAs hleaf [] [] trivial
  have hfinish := (hsettles.lower (Nat.zero_le _) trivial).finish
  simpa [toPostfix, hrun] using hfinish

end Expression
end Reckoner
