import Reckoner.Proofs.Expression.MeaningfulCharacters
import Reckoner.Proofs.Expression.OperandBalance

/-!
# The places of operands

A conversion forgets where operands stood, so what it accepts is decided by numbers: one value has to be
left.  Where no two operands stand side by side, the numbers decide everything.  Then the text is one of
the grammar with operands missing here and there, and a missing operand is not made up for by another
that has no operator.  Two operands stand side by side where a product is implied and not written,
beside a point or across a character without a meaning; there an operator may stand before or after
its operands.

**Results.**
* `Reads.release`: what waits on the stack of a conversion is a part of the text that is read.
* `Progress.run`: the invariant of a conversion over a text with its operands apart.
* `exists_derives_of_toPostfix`: such a text is derived with some operands missing.
* `sentence_iff_operandsApart`: an expression with a value is a text of the grammar exactly where its
  operands stand apart.
-/

namespace Reckoner

/-- The layer that an operator chains. -/
def Operator.level : Operator → Expression.Level
  | plus | minus => .expression
  | times | dividedBy => .term

namespace Expression

@[simp] theorem rank_level
    (op : Operator) :
    op.level.rank = op.rank := by
  cases op <;> rfl

theorem rank_lt_rank_factor
    (op : Operator) :
    op.rank < Level.factor.rank := by
  cases op <;> decide

/-- Whether of two neighbouring characters the first ends an operand and the second begins another. -/
def isSeam (left right : Char) : Bool :=
  (Conversion.isOperandChar left && right == '(') ||
    (left == ')' && (Conversion.isOperandChar right || right == '('))

/-- No two operands stand side by side. -/
def OperandsApart (cs : List Char) : Prop :=
  cs.IsChain fun left right => isSeam left right = false

instance (cs : List Char) : Decidable (OperandsApart cs) := by
  unfold OperandsApart; infer_instance

theorem isSeam_before_symbol
    (op : Operator)
    (c : Char) :
    isSeam c op.symbol = false := by
  cases op <;> simp [isSeam, Operator.symbol, Conversion.isOperandChar]

theorem isSeam_after_symbol
    (op : Operator)
    (c : Char) :
    isSeam op.symbol c = false := by
  cases op <;> simp [isSeam, Operator.symbol, Conversion.isOperandChar]

/-- A run of digits and points, also an empty one where an operand is missing. -/
def LooseRun (cs : List Char) : Prop :=
  ∀ c ∈ cs, Conversion.isOperandChar c = true

theorem looseRun_nil :
    LooseRun [] := by
  simp [LooseRun]

/-- The grammar of expressions whose operands may be missing or misspelt. -/
def LooseSentence : Level → List Char → Tree → Prop :=
  Derives LooseRun NoGap

namespace Derives

variable {leaf : List Char → Prop}
variable {gap : List Char → List Char → Prop}
variable {cs ds : List Char} {t u : Tree}

/-- A text of a layer belongs to the layers that bind less. -/
theorem lower
    {low high : Level}
    (d : Derives leaf gap high cs t)
    (h : low.rank ≤ high.rank) :
    Derives leaf gap low cs t := by
  cases high with
  | factor =>
      cases low with
      | factor =>
          exact d
      | term =>
          exact .ofFactor d
      | expression =>
          exact .ofTerm (.ofFactor d)
  | term =>
      cases low with
      | factor =>
          exact absurd h (by decide)
      | term =>
          exact d
      | expression =>
          exact .ofTerm d
  | expression =>
      cases low with
      | factor | term =>
          exact absurd h (by decide)
      | expression =>
          exact d

/-- An operator chains a text of its layer and one of a layer that binds more. -/
theorem chain
    {op : Operator}
    {high : Level}
    (left : Derives leaf gap op.level cs t)
    (right : Derives leaf gap high ds u)
    (h : op.rank < high.rank) :
    Derives leaf gap op.level (cs ++ op.symbol :: ds) (.operation op t u) := by
  cases op with
  | plus =>
      exact .sum .plus rfl left (right.lower h)
  | minus =>
      exact .sum .minus rfl left (right.lower h)
  | times =>
      exact .product .times rfl left (right.lower h)
  | dividedBy =>
      exact .product .dividedBy rfl left (right.lower h)

/-- In a text of the grammar operands stand apart. -/
theorem operandsApart
    (hleaf : ∀ cs, leaf cs → LooseRun cs)
    {level : Level}
    (d : Derives leaf NoGap level cs t) :
    OperandsApart cs := by
  have chained :
      ∀ (op : Operator) {cs ds : List Char},
        OperandsApart cs → OperandsApart ds → OperandsApart (cs ++ op.symbol :: ds) := by
    intro op cs ds hcs hds
    refine List.isChain_append.mpr ⟨hcs, List.isChain_cons.mpr ⟨?_, hds⟩, ?_⟩
    · intro c _
      exact isSeam_after_symbol op c
    · intro c _ d hd
      rw [← Option.mem_some_iff.mp hd]
      exact isSeam_before_symbol op c
  induction d with
  | @numeral cs h =>
      have hboth : ∀ left right : Char,
          left ∈ cs → right ∈ cs → isSeam left right = false := by
        intro left right hleft hright
        have hl : left ≠ ')' := by
          rintro rfl
          exact absurd (hleaf cs h _ hleft) (by decide)
        have hr : right ≠ '(' := by
          rintro rfl
          exact absurd (hleaf cs h _ hright) (by decide)
        simp [isSeam, hl, hr]
      rw [OperandsApart, List.isChain_iff_forall_rel_of_append_cons_cons]
      rintro left right before after rfl
      exact hboth left right (by simp) (by simp)
  | @group cs t _ ih =>
      refine List.isChain_cons.mpr ⟨?_, List.isChain_append.mpr ⟨ih, .singleton _, ?_⟩⟩
      · intro c _
        simp [isSeam, Conversion.isOperandChar]
      · intro c _ d hd
        rw [← Option.mem_some_iff.mp hd]
        simp [isSeam, Conversion.isOperandChar]
  | ofFactor _ ih | ofTerm _ ih =>
      exact ih
  | product op _ _ _ ihl ihr | sum op _ _ _ ihl ihr =>
      exact chained op ihl ihr
  | implied hgap =>
      exact hgap.elim

end Derives

namespace Conversion

/-- The stack of a conversion with the text that it has read and the tokens that it has written, up to
the last symbol that waits.  An operator waits for its right operand; its left one is read. -/
inductive Pending : List Waiting → List Char → List Token → Prop
  | start :
      Pending [] [] []
  | opening
      {stack : List Waiting} {cs : List Char} {output : List Token}
      (below : Pending stack cs output) :
      Pending (.opening :: stack) (cs ++ ['(']) output
  | operator
      {stack : List Waiting} {cs ds : List Char} {output : List Token} {t : Tree}
      (op : Operator)
      (below : Pending stack cs output)
      (hbinds : BindsLess op.rank stack)
      (left : LooseSentence op.level ds t) :
      Pending (.operator op :: stack) (cs ++ ds ++ [op.symbol]) (t.present.reverse ++ output)

/-- A text that ends with a text of a layer, which binds more than what waits before it. -/
def Reads
    (level : Level)
    (cs : List Char)
    (output : List Token)
    (stack : List Waiting) : Prop :=
  ∃ (before ds : List Char) (written : List Token) (t : Tree),
    Pending stack before written ∧
    BindsLess level.rank stack ∧
    LooseSentence level ds t ∧
    cs = before ++ ds ∧
    output = t.present.reverse ++ written

/-- Where nothing that waits binds as much, a text is one of a layer that binds less. -/
theorem Reads.lower
    {low high : Level}
    {cs : List Char}
    {output : List Token}
    {stack : List Waiting}
    (h : Reads high cs output stack)
    (hle : low.rank ≤ high.rank)
    (hbinds : BindsLess low.rank stack) :
    Reads low cs output stack := by
  obtain ⟨before, ds, written, t, hpending, -, hread, hcs, houtput⟩ := h
  exact ⟨before, ds, written, t, hpending, hbinds, hread.lower hle, hcs, houtput⟩

/-- An operator that is released chains its left operand with what is read. -/
theorem Reads.chain
    {op : Operator}
    {high : Level}
    {cs : List Char}
    {output : List Token}
    {stack : List Waiting}
    (h : Reads high cs output (.operator op :: stack)) :
    Reads op.level cs (.operator op :: output) stack := by
  obtain ⟨before, ds, written, t, hpending, hbinds, hread, rfl, rfl⟩ := h
  rcases hpending with _ | _ | @⟨_, cs', ds', written', t', _, below, hbelow, left⟩
  refine ⟨cs', ds' ++ op.symbol :: ds, written', .operation op t' t, below, ?_,
    left.chain hread hbinds, ?_, ?_⟩
  · rw [rank_level]
    exact hbelow
  · simp
  · simp

/-- A release of waiting operators chains what is read with their left operands. -/
theorem Reads.release
    {low high : Level}
    {cs : List Char}
    {output : List Token}
    {stack : List Waiting}
    (h : Reads high cs output stack)
    (hle : low.rank ≤ high.rank) :
    Reads low cs (release low.rank output stack).1 (release low.rank output stack).2 := by
  -- the layer read is general: it falls to that of each operator released
  induction stack generalizing high output with
  | nil =>
      exact h.lower hle trivial
  | cons w stack ih =>
      cases w with
      | opening =>
          exact h.lower hle trivial
      | operator op =>
          by_cases hop : low.rank ≤ op.rank
          · rw [Conversion.release, if_pos hop]
            exact ih h.chain ((rank_level op).symm ▸ hop)
          · have htop : BindsLess low.rank (.operator op :: stack) :=
              Nat.lt_of_not_le hop
            rw [release_of_bindsLess htop]
            exact h.lower hle htop

/-- A factor binds more than any operator that waits. -/
theorem bindsLess_factor
    (stack : List Waiting) :
    BindsLess Level.factor.rank stack := by
  match stack with
  | [] | .opening :: _ =>
      trivial
  | .operator op :: _ =>
      exact rank_lt_rank_factor op

/-- All operators bind at least as tightly as sums, so a release of sums releases all. -/
theorem release_zero
    (output : List Token)
    (stack : List Waiting) :
    release 0 output stack = release Level.expression.rank output stack := by
  induction stack generalizing output with
  | nil =>
      simp [release]
  | cons w stack ih =>
      cases w with
      | opening =>
          simp [release]
      | operator op =>
          have hop : Level.expression.rank ≤ op.rank := by
            cases op <;> decide
          rw [release, release, if_pos (Nat.zero_le _), if_pos hop, ih]

/-- A conversion after a text: an operand is expected or being read, or a group was closed. -/
inductive Progress : List Char → Conversion → Prop
  | reading
      {before operand : List Char} {output : List Token} {stack : List Waiting}
      (below : Pending stack before output)
      (hrun : LooseRun operand) :
      Progress (before ++ operand.reverse) ⟨output, operand, stack⟩
  | closed
      {cs : List Char} {output : List Token} {stack : List Waiting}
      (group : Reads .factor (cs ++ [')']) output stack) :
      Progress (cs ++ [')']) ⟨output, [], stack⟩

variable {cs : List Char} {s s' : Conversion}

/-- What is being read is a factor at the end of the text, a missing operand if it is empty. -/
theorem Progress.flush
    (h : Progress cs s) :
    Reads .factor cs s.flush.output s.stack := by
  cases h with
  | @reading before operand output stack below hrun =>
      refine ⟨before, operand.reverse, output, .numeral operand.reverse, below,
        bindsLess_factor stack, .numeral ?_, rfl, ?_⟩
      · intro c hc
        exact hrun c (List.mem_reverse.mp hc)
      · cases operand <;> simp [Conversion.flush, Tree.present, Tree.postorder]
  | closed group =>
      exact group

/-- A closing parenthesis makes a factor of what was read since its opening one. -/
theorem Progress.closeGroup
    (h : Progress cs s)
    (hclose : s.closeGroup = .ok s') :
    Progress (cs ++ [')']) s' := by
  obtain ⟨output, stack, hrelease, rfl⟩ := closeGroup_eq_ok hclose
  have hread : Reads .expression cs _ _ :=
    h.flush.release (by decide)
  rw [← release_zero, hrelease] at hread
  obtain ⟨before, ds, written, t, hpending, -, hinner, rfl, rfl⟩ := hread
  rcases hpending with _ | @⟨_, before, _, below⟩ | _
  exact .closed ⟨before, '(' :: (ds ++ [')']), written, t, below, bindsLess_factor stack,
    .group hinner, by simp, rfl⟩

/-- An operator waits with what was read as its left operand. -/
theorem Progress.putOperator
    (op : Operator)
    (h : Progress cs s) :
    Progress (cs ++ [op.symbol]) (s.putOperator op) := by
  have hread : Reads op.level cs _ _ :=
    h.flush.release ((rank_level op).symm ▸ Nat.le_of_lt (rank_lt_rank_factor op))
  rw [rank_level] at hread
  obtain ⟨before, ds, written, t, hpending, hbinds, hleft, hcs, houtput⟩ := hread
  rw [rank_level] at hbinds
  have hput := Progress.reading (.operator op hpending hbinds hleft) looseRun_nil
  rw [← houtput, ← hcs] at hput
  simpa [Conversion.putOperator] using hput

/-- One character that does not begin a second operand beside the first. -/
theorem Progress.step
    {c : Char}
    (h : Progress cs s)
    (hmeaningful : isMeaningful c = true)
    (hapart : ∀ last ∈ cs.getLast?, isSeam last c = false)
    (hstep : s.step c = .ok s') :
    Progress (cs ++ [c]) s' := by
  rcases step_cases hstep with
    ⟨hc, rfl⟩ | ⟨rfl, rfl⟩ | ⟨rfl, hclose⟩ | ⟨op, rfl, rfl⟩ | ⟨hoperand, hopening, hclosing, hnone, -⟩
  · cases h with
    | @reading before operand output stack below hrun =>
        have hrun' : LooseRun (c :: operand) :=
          List.forall_mem_cons.mpr ⟨hc, hrun⟩
        simpa using Progress.reading below hrun'
    | closed group =>
        -- a digit or a point right after a group is a seam
        have := hapart ')' (by simp)
        simp [isSeam, hc] at this
  · cases h with
    | @reading before operand output stack below hrun =>
        cases operand with
        | nil =>
            simpa [openGroup, Conversion.flush] using
              Progress.reading (.opening below) looseRun_nil
        | cons d rest =>
            have := hapart d (by simp)
            simp [isSeam, hrun d (by simp)] at this
    | closed group =>
        have := hapart ')' (by simp)
        simp [isSeam] at this
  · exact h.closeGroup hclose
  · exact h.putOperator op
  · simp [isMeaningful, hoperand, hopening, hclosing, hnone] at hmeaningful

/-- A text whose operands stand apart. -/
theorem Progress.run
    {ds : List Char}
    (h : Progress cs s)
    (hmeaningful : ∀ c ∈ ds, isMeaningful c = true)
    (hapart : OperandsApart (cs ++ ds))
    (hrun : run s ds = .ok s') :
    Progress (cs ++ ds) s' := by
  induction ds generalizing cs s with
  | nil =>
      cases hrun
      simpa using h
  | cons c ds ih =>
      rw [Conversion.run] at hrun
      cases hstep : s.step c with
      | error f =>
          rw [hstep] at hrun
          cases hrun
      | ok s₁ =>
          rw [hstep] at hrun
          have hseam : ∀ last ∈ cs.getLast?, isSeam last c = false := by
            intro last hlast
            exact (List.isChain_append.mp hapart).2.2 last hlast c (by simp)
          have hnext := h.step (hmeaningful c List.mem_cons_self) hseam hstep
          rw [List.append_cons] at hapart ⊢
          exact ih hnext (fun d hd => hmeaningful d (List.mem_cons_of_mem _ hd)) hapart hrun

end Conversion

open Conversion

/-- A text whose operands stand apart is derived with some of them missing or misspelt, if it has a
postfix form, and that is its tree in post-order without the missing ones. -/
theorem exists_derives_of_toPostfix
    {cs : List Char}
    {tokens : List Token}
    (hmeaningful : ∀ c ∈ cs, isMeaningful c = true)
    (hapart : OperandsApart cs)
    (h : toPostfix cs = .ok tokens) :
    ∃ t : Tree, LooseSentence .expression cs t ∧ tokens = t.present := by
  unfold toPostfix at h
  cases hrun : Conversion.run {} cs with
  | error f =>
      rw [hrun] at h
      cases h
  | ok s =>
      rw [hrun] at h
      have hstart : Progress [] {} :=
        Progress.reading .start looseRun_nil
      obtain ⟨output, hrelease, rfl⟩ := finish_eq_ok h
      have hread : Reads .expression cs _ _ :=
        (hstart.run hmeaningful hapart hrun).flush.release (by decide)
      rw [← release_zero, hrelease] at hread
      obtain ⟨before, ds, written, t, hpending, -, hsentence, hcs, houtput⟩ := hread
      rcases hpending with _ | _ | _
      rw [List.nil_append] at hcs
      exact ⟨t, hcs ▸ hsentence, by simpa using congrArg List.reverse houtput⟩

/-- A loose sentence whose tokens leave one value is a sentence. -/
theorem writtenSentence_of_folds
    {p : Precision}
    {cs : List Char} {t : Tree}
    (d : LooseSentence .expression cs t)
    {losses : List Event}
    {v : Value}
    (h : Folds p [] t.present losses [v]) :
    WrittenSentence .expression cs t := by
  refine d.relabel ?_ fun _ _ => id
  intro ds hds
  have hnumeral := isNumeral_of_folds h ds hds
  refine OperandRun.isLiteral ⟨?_, d.leaf_of_mem_numerals ds hds⟩ hnumeral
  rintro rfl
  exact absurd hnumeral (by decide)

/-- An expression with a value is, with its products written and the characters without a meaning left
out, a text of the grammar exactly where no two operands stand side by side; anywhere, its tokens are
right in number only.  An expression whose operands stand apart and that is no text of the grammar
fails: it is malformed, unless a number of its postfix form fails before that shows. -/
theorem sentence_iff_operandsApart
    (p : Precision)
    (hscale : 1 ≤ p.scale)
    (cs : List Char) :
    (∀ v : Value,
      (evaluate p cs).result = .ok v →
      ((∃ t : Tree, WrittenSentence .expression (meaningful (insertProducts cs)) t) ↔
        OperandsApart (meaningful (insertProducts cs))) ∧
      ∃ tokens : List Token,
        toPostfix (insertProducts cs) = .ok tokens ∧ balance tokens = 1) ∧
    (OperandsApart (meaningful (insertProducts cs)) →
      (¬ ∃ t : Tree, WrittenSentence .expression (meaningful (insertProducts cs)) t) →
      ∃ f : Failure,
        (evaluate p cs).result = .error f ∧
        (f.kind = .malformedExpression ∨
          ∃ tokens : List Token,
            toPostfix (insertProducts cs) = .ok tokens ∧
            NumberFailure p tokens f ∧
            ((f.kind = .divisionByZero ∨ f.kind = .fractionOverflow) ∨ TextFailure p tokens f))) := by
  have hvalue :
      ∀ v : Value,
        (evaluate p cs).result = .ok v →
        OperandsApart (meaningful (insertProducts cs)) →
        ∃ t : Tree, WrittenSentence .expression (meaningful (insertProducts cs)) t := by
    intro v hv hapart
    obtain ⟨tokens, losses, htokens, hfolds, -⟩ := folds_of_evaluate hv
    rw [← toPostfix_meaningful] at htokens
    obtain ⟨t, hsentence, rfl⟩ :=
      exists_derives_of_toPostfix (fun _ => isMeaningful_of_mem_meaningful) hapart htokens
    exact ⟨t, writtenSentence_of_folds hsentence hfolds⟩
  refine ⟨?_, ?_⟩
  · intro v hv
    refine ⟨⟨?_, hvalue v hv⟩, ?_⟩
    · rintro ⟨t, hsentence⟩
      exact hsentence.operandsApart fun ds hds => (operandRun_of_isLiteral hds).2
    · obtain ⟨tokens, losses, htokens, hfolds, -⟩ := folds_of_evaluate hv
      have hlength := hfolds.length_eq
      exact ⟨tokens, htokens, by simpa using hlength.symm⟩
  · intro hapart hnone
    cases hresult : (evaluate p cs).result with
    | ok v =>
        exact absurd (hvalue v hresult hapart) hnone
    | error f =>
        refine ⟨f, rfl, ?_⟩
        rcases evaluate_failure_cause hresult with hmalformed | ⟨tokens, htokens, hnumber⟩
        · exact .inl hmalformed
        · exact .inr ⟨tokens, htokens, hnumber,
            hnumber.fails hscale fun ds hds => operandRun_of_mem_toPostfix htokens hds⟩

/-- Blanks between and within the operands of a product that is not written. -/
theorem sentence_iff_operandsApart_blanks :
    ∃ (v : Value) (t : Tree),
      (evaluate {} "( 1+ 2)(3 ) /4".toList).result = .ok v ∧
      OperandsApart "(1+2)*(3)/4".toList ∧
      WrittenSentence .expression "(1+2)*(3)/4".toList t := by
  have hvalue :
      (evaluate {} "( 1+ 2)(3 ) /4".toList).result =
        .ok ⟨.exact ⟨9, 4, by decide, by decide, by decide⟩, 10, by decide⟩ := by
    decide +kernel
  have hapart : OperandsApart "(1+2)*(3)/4".toList := by
    decide +kernel
  obtain ⟨t, hsentence⟩ :=
    ((sentence_iff_operandsApart {} (by decide) "( 1+ 2)(3 ) /4".toList).1 _ hvalue).1.mpr hapart
  exact ⟨_, t, hvalue, hapart, hsentence⟩

/-- A sum is accepted after its operands, which the blank keeps from being a product, and a sum that
lacks an operand is not even looked at where a quotient by zero is met first. -/
theorem evaluate_sum_after_operands :
    (evaluate {} "1 (2)+".toList).result.map Value.text = .ok "3" ∧
    (¬ ∃ t : Tree, WrittenSentence .expression (meaningful (insertProducts "1 (2)+".toList)) t) ∧
    (evaluate {} "5/0+".toList).result = .error (.zeroDivisor (some "5")) := by
  refine ⟨by decide +kernel, ?_, by decide +kernel⟩
  rintro ⟨t, hsentence⟩
  have hapart := hsentence.operandsApart fun ds hds => (operandRun_of_isLiteral hds).2
  exact absurd hapart (by decide +kernel)

end Expression
end Reckoner
