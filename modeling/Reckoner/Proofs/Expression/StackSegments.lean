import Mathlib.Data.List.Chain
import Reckoner.Proofs.Expression.MatchingParentheses

/-!
# Segments of the operator stack

A conversion keeps open parentheses and waiting operators on one stack.  An operator is put there after
those above the latest parenthesis that bind at least as tightly have been released, and a parenthesis is
put on anything.  Both loops that release operators take them from the top and stop at a parenthesis, so
the order below is never disturbed, whatever the form of the text.

From the bottom up, the stack is a sequence of segments, with a parenthesis between one and the next, and
in each segment the operators bind more and more tightly.  Since there are two ranks only, the stack is
short where few parentheses are open.  No more can be said of it: every stack in this order is left by
some text.

**Results.**
* `release_suffix`, `head_release`: what a release leaves on the stack.
* `step_isChain`, `run_isChain`: characters keep the order of the stack.
* `exists_run_iff`: the stacks that texts leave are those in order.
* `length_le_of_isChain`: the length of a stack in order.
* `exists_segments_of_isChain`, `isChain_joinSegments`: its segments.
* `depth_of_run`: its parentheses by those of the text.
* `run_stack_segments`: the stack of a conversion after any part of a text.
-/

namespace Reckoner
namespace Expression

/-- The character that puts a symbol on the stack. -/
def Waiting.symbol : Waiting → Char
  | opening => '('
  | operator op => op.symbol

/-- There are two ranks of operators. -/
theorem rank_cases
    (op : Operator) :
    (op.rank = 1 ∧ (op = .plus ∨ op = .minus)) ∨
      (op.rank = 2 ∧ (op = .times ∨ op = .dividedBy)) := by
  cases op <;> decide

theorem Waiting.rank_opening_lt
    (op : Operator) :
    opening.rank < op.rank := by
  cases op <;> decide

theorem Waiting.rank_le
    (w : Waiting) :
    w.rank ≤ 2 := by
  cases w with
  | opening =>
      decide
  | operator op =>
      rcases rank_cases op with ⟨hrank, -⟩ | ⟨hrank, -⟩ <;> simp [rank, hrank]

namespace Conversion

section Release

variable {rank : Nat}
variable {output : List Token}
variable {stack : List Waiting}

/-- What a release leaves was below. -/
theorem release_suffix :
    (release rank output stack).2 <:+ stack := by
  obtain ⟨released, rest, rfl, hrelease, -, -⟩ := exists_released rank output stack
  rw [hrelease]
  exact List.suffix_append _ rest

/-- It stops at what binds less or at a parenthesis. -/
theorem head_release
    {w : Waiting}
    (h : w ∈ (release rank output stack).2.head?) :
    w = .opening ∨ w.rank < rank := by
  obtain ⟨released, rest, -, hrelease, -, hrest⟩ := exists_released rank output stack
  rw [hrelease] at h
  match rest, hrest, h with
  | .opening :: _, _, rfl =>
      exact .inl rfl
  | .operator _ :: _, hop, rfl =>
      exact .inr hop

end Release

/-- What may stand right above what on a stack: a parenthesis on anything, an operator on what binds
less. -/
def StandsOn (above below : Waiting) : Prop :=
  above = .opening ∨ below.rank < above.rank

/-- On a parenthesis there may stand anything. -/
theorem standsOn_opening
    (above : Waiting) :
    StandsOn above .opening := by
  cases above with
  | opening =>
      exact .inl rfl
  | operator op =>
      exact .inr (Waiting.rank_opening_lt op)

section Order

variable {s s' : Conversion}
variable {stack : List Waiting}
variable {op : Operator}

/-- An operator stands on what a release of its rank leaves. -/
theorem isChain_put
    (h : stack.IsChain StandsOn)
    (output : List Token) :
    (.operator op :: (release op.rank output stack).2).IsChain StandsOn := by
  refine (h.suffix release_suffix).cons ?_
  intro below hbelow
  rcases head_release hbelow with rfl | hlt
  · exact .inr (Waiting.rank_opening_lt op)
  · exact .inr hlt

/-- An operator of a stack in order binds more tightly than the symbol below it. -/
theorem rank_lt_of_isChain
    (h : (.operator op :: stack).IsChain StandsOn)
    {below : Waiting}
    (hbelow : below ∈ stack.head?) :
    below.rank < op.rank := by
  rcases h.rel_head? hbelow with hopening | hlt
  · cases hopening
  · exact hlt

theorem bindsLess_of_isChain
    (h : (.operator op :: stack).IsChain StandsOn) :
    BindsLess op.rank stack := by
  match stack, h with
  | [], _ | .opening :: _, _ =>
      trivial
  | .operator below :: _, h =>
      exact rank_lt_of_isChain h rfl

/-- One character keeps the order of the stack. -/
theorem step_isChain
    {c : Char}
    (h : s.stack.IsChain StandsOn)
    (hstep : s.step c = .ok s') :
    s'.stack.IsChain StandsOn := by
  rcases step_cases hstep with ⟨-, rfl⟩ | ⟨-, rfl⟩ | ⟨-, hclose⟩ | ⟨op, -, rfl⟩ | ⟨-, -, -, -, rfl⟩
  · exact h
  · rw [← flush_stack] at h
    exact h.cons fun _ _ => .inl rfl
  · obtain ⟨output, stack, hrelease, rfl⟩ := closeGroup_eq_ok hclose
    have hleft : (release 0 s.flush.output s.stack).2 = .opening :: stack := by
      rw [hrelease]
    have hbelow : (.opening :: stack).IsChain StandsOn :=
      hleft ▸ h.suffix release_suffix
    exact hbelow.tail
  · rw [← flush_stack] at h
    exact isChain_put h s.flush.output
  · exact h

/-- So does a text. -/
theorem run_isChain
    {cs : List Char}
    (h : s.stack.IsChain StandsOn)
    (hrun : run s cs = .ok s') :
    s'.stack.IsChain StandsOn :=
  run_invariant (P := fun s _ => s.stack.IsChain StandsOn)
    (fun _ _ _ _ hs hstep => step_isChain hs hstep) h hrun

/-- The symbols of a stack in order, as a text, leave this stack and nothing else. -/
theorem run_symbols
    (h : stack.IsChain StandsOn) :
    run {} (stack.reverse.map Waiting.symbol) = .ok ⟨[], [], stack⟩ := by
  -- on the stack from the top down: the text ends with the symbol on top
  induction stack with
  | nil =>
      rfl
  | cons w stack ih =>
      rw [List.reverse_cons, List.map_append, run_append_of_run (ih h.tail)]
      cases w with
      | opening =>
          rfl
      | operator op =>
          have hsettles : Settles op.rank ⟨[], [], stack⟩ [] stack :=
            release_of_bindsLess (bindsLess_of_isChain h) []
          rw [List.map_singleton, Waiting.symbol, run, step_symbol, hsettles.putOperator]
          rfl

/-- The stacks that texts leave are those in order. -/
theorem exists_run_iff
    (stack : List Waiting) :
    (∃ (cs : List Char) (s : Conversion), run {} cs = .ok s ∧ s.stack = stack) ↔
      stack.IsChain StandsOn := by
  constructor
  · rintro ⟨cs, s, hrun, rfl⟩
    exact run_isChain .nil hrun
  · intro h
    exact ⟨stack.reverse.map Waiting.symbol, ⟨[], [], stack⟩, run_symbols h, rfl⟩

end Order

section Length

/-- A stack in order has at most three symbols for each parenthesis and, above the last, at most as many
as the rank of the symbol on top. -/
theorem length_le_of_isChain
    {stack : List Waiting}
    (h : stack.IsChain StandsOn)
    {rank : Nat}
    (htop : ∀ w ∈ stack.head?, w.rank ≤ rank) :
    stack.length ≤ 3 * stack.count .opening + rank := by
  -- below an operator the rank is smaller, below a parenthesis the greatest is counted anew
  induction stack generalizing rank with
  | nil =>
      simp
  | cons w stack ih =>
      cases w with
      | opening =>
          have hbelow : stack.length ≤ 3 * stack.count .opening + 2 :=
            ih h.tail fun w _ => w.rank_le
          rw [List.length_cons, List.count_cons_self]
          omega
      | operator op =>
          have hrank : op.rank ≤ rank :=
            htop (.operator op) rfl
          have hpos : 0 < op.rank :=
            Waiting.rank_opening_lt op
          have hbelow : stack.length ≤ 3 * stack.count .opening + (op.rank - 1) :=
            ih h.tail fun w hw => Nat.le_sub_one_of_lt (rank_lt_of_isChain h hw)
          rw [List.length_cons, List.count_cons_of_ne (by simp)]
          omega

end Length

section Segments

/-- A stack, from the bottom up, of segments of operators with an open parenthesis between one and the
next. -/
def joinSegments (segments : List (List Operator)) : List Waiting :=
  [Waiting.opening].intercalate (segments.map (List.map .operator))

theorem joinSegments_cons
    (segment next : List Operator)
    (segments : List (List Operator)) :
    joinSegments (segment :: next :: segments) =
      segment.map .operator ++ .opening :: joinSegments (next :: segments) := by
  simp [joinSegments]

/-- An operator below all belongs to the lowest segment. -/
theorem joinSegments_cons_operator
    (op : Operator)
    (segment : List Operator)
    (segments : List (List Operator)) :
    joinSegments ((op :: segment) :: segments) = .operator op :: joinSegments (segment :: segments) := by
  cases segments <;> simp [joinSegments]

/-- Operators from the bottom up, each of which binds more tightly than those below it. -/
def Climbing (segment : List Operator) : Prop :=
  segment.Pairwise fun below above => below.rank < above.rank

instance (segment : List Operator) : Decidable (Climbing segment) :=
  inferInstanceAs (Decidable (segment.Pairwise fun below above => below.rank < above.rank))

/-- There is room for one sum or difference, and above it for one product or quotient. -/
theorem Climbing.exists_sums_products
    {segment : List Operator}
    (h : Climbing segment) :
    ∃ sums products : List Operator,
      segment = sums ++ products ∧
      sums.length ≤ 1 ∧ (∀ op ∈ sums, op = .plus ∨ op = .minus) ∧
      products.length ≤ 1 ∧ (∀ op ∈ products, op = .times ∨ op = .dividedBy) := by
  match segment, h with
  | [], _ =>
      exact ⟨[], [], by simp⟩
  | [op], _ =>
      rcases rank_cases op with ⟨-, hop⟩ | ⟨-, hop⟩
      · exact ⟨[op], [], by simpa using hop⟩
      · exact ⟨[], [op], by simpa using hop⟩
  | [low, high], h =>
      have hlt : low.rank < high.rank :=
        List.rel_of_pairwise_cons h List.mem_cons_self
      rcases rank_cases low with ⟨hl, hlow⟩ | ⟨hl, -⟩
      · rcases rank_cases high with ⟨hh, -⟩ | ⟨-, hhigh⟩
        · omega
        · exact ⟨[low], [high], by simpa using ⟨hlow, hhigh⟩⟩
      · have := rank_cases high
        omega
  | low :: middle :: high :: _, h =>
      have hlow : low.rank < middle.rank :=
        List.rel_of_pairwise_cons h List.mem_cons_self
      have hhigh : middle.rank < high.rank :=
        List.rel_of_pairwise_cons h.tail List.mem_cons_self
      have := rank_cases low
      have := rank_cases high
      omega

/-- A stack in order, from the bottom up, is one of segments in which the operators climb. -/
theorem exists_segments_of_isChain
    {stack : List Waiting}
    (h : stack.IsChain fun below above => StandsOn above below) :
    ∃ segments : List (List Operator),
      stack = joinSegments segments ∧ ∀ segment ∈ segments, Climbing segment := by
  -- the lowest segment is there also on an empty stack, so that an operator has one to go to
  suffices hlowest :
      ∃ (lowest : List Operator) (segments : List (List Operator)),
        stack = joinSegments (lowest :: segments) ∧
        Climbing lowest ∧ ∀ segment ∈ segments, Climbing segment by
    obtain ⟨lowest, segments, hstack, hclimbing⟩ := hlowest
    exact ⟨lowest :: segments, hstack, List.forall_mem_cons.mpr hclimbing⟩
  induction stack with
  | nil =>
      exact ⟨[], [], rfl, .nil, by simp⟩
  | cons w stack ih =>
      obtain ⟨lowest, segments, rfl, hlowest, hsegments⟩ := ih h.tail
      cases w with
      | opening =>
          refine ⟨[], lowest :: segments, ?_, .nil, List.forall_mem_cons.mpr ⟨hlowest, hsegments⟩⟩
          rw [joinSegments_cons, List.map_nil, List.nil_append]
      | operator op =>
          refine ⟨op :: lowest, segments, ?_, ?_, hsegments⟩
          · rw [joinSegments_cons_operator]
          · cases lowest with
            | nil =>
                exact List.pairwise_singleton _ op
            | cons next above =>
                rw [joinSegments_cons_operator] at h
                have hnext : op.rank < next.rank :=
                  h.rel.resolve_left (by simp)
                refine .cons ?_ hlowest
                intro high hhigh
                rcases List.mem_cons.mp hhigh with rfl | hhigh
                · exact hnext
                · exact hnext.trans (List.rel_of_pairwise_cons hlowest hhigh)

/-- Conversely, segments in which the operators climb make a stack in order. -/
theorem isChain_joinSegments
    {segments : List (List Operator)}
    (h : ∀ segment ∈ segments, Climbing segment) :
    (joinSegments segments).IsChain fun below above => StandsOn above below := by
  induction segments with
  | nil =>
      exact .nil
  | cons segment segments ih =>
      obtain ⟨hsegment, hsegments⟩ := List.forall_mem_cons.mp h
      have hchain :
          (segment.map Waiting.operator).IsChain fun below above => StandsOn above below :=
        (List.isChain_map Waiting.operator).mpr (hsegment.isChain.imp fun _ _ => .inr)
      cases segments with
      | nil =>
          simpa [joinSegments] using hchain
      | cons next segments =>
          rw [joinSegments_cons]
          refine hchain.append ((ih hsegments).cons ?_) ?_
          · exact fun above _ => standsOn_opening above
          · rintro below - above habove
            exact .inl (Option.mem_some.mp habove).symm

end Segments

/-- Each parenthesis of a text is put on the stack or takes one from there. -/
theorem depth_of_run
    {s s' : Conversion}
    {cs : List Char}
    (h : run s cs = .ok s') :
    s'.depth + cs.count ')' = s.depth + cs.count '(' := by
  have hdepth := s.run_depth cs
  cases hcount : openAfter s.depth cs with
  | none =>
      rw [hcount, h] at hdepth
      cases hdepth
  | some count =>
      rw [hcount] at hdepth
      obtain ⟨s'', hs'', rfl⟩ := hdepth
      have hsame : s' = s'' :=
        Except.ok.inj (h.symm.trans hs'')
      rw [hsame]
      exact (count_of_openAfter hcount).symm

/-- After every character of a text that a conversion has got past, its stack is, from the bottom up, a
sequence of segments of operators with an open parenthesis between one and the next.  In each segment
the operators bind more and more tightly: there is at most one sum or difference, and above it at most
one product or quotient.  The parentheses on the stack are as many as the part of the text that has been
read leaves open, and with `d` of them there are at most `3 * d + 2` symbols on it.  No more is to be
said of the stack, since every sequence of such segments is left by some text. -/
theorem run_stack_segments :
    (∀ (cs : List Char) (n : Nat) (s : Conversion), run {} (cs.take n) = .ok s →
      (∃ segments : List (List Operator),
        s.stack.reverse = joinSegments segments ∧
        ∀ segment ∈ segments,
          Climbing segment ∧
          ∃ sums products : List Operator,
            segment = sums ++ products ∧
            sums.length ≤ 1 ∧ (∀ op ∈ sums, op = .plus ∨ op = .minus) ∧
            products.length ≤ 1 ∧ (∀ op ∈ products, op = .times ∨ op = .dividedBy)) ∧
      s.depth + (cs.take n).count ')' = (cs.take n).count '(' ∧
      s.stack.length ≤ 3 * s.depth + 2) ∧
    ∀ segments : List (List Operator), (∀ segment ∈ segments, Climbing segment) →
      ∃ (cs : List Char) (s : Conversion),
        run {} cs = .ok s ∧ s.stack.reverse = joinSegments segments := by
  constructor
  · intro cs n s hrun
    have hchain : s.stack.IsChain StandsOn :=
      (exists_run_iff s.stack).mp ⟨cs.take n, s, hrun, rfl⟩
    obtain ⟨segments, hstack, hclimbing⟩ :=
      exists_segments_of_isChain (List.isChain_reverse.mpr hchain)
    have hdepth : s.depth + (cs.take n).count ')' = (cs.take n).count '(' := by
      simpa [depth] using depth_of_run hrun
    refine ⟨⟨segments, hstack, ?_⟩, hdepth, ?_⟩
    · intro segment hsegment
      exact ⟨hclimbing segment hsegment, (hclimbing segment hsegment).exists_sums_products⟩
    · exact length_le_of_isChain hchain fun w _ => w.rank_le
  · intro segments hsegments
    have hchain : (joinSegments segments).reverse.IsChain StandsOn :=
      List.isChain_reverse.mpr (isChain_joinSegments hsegments)
    obtain ⟨cs, s, hrun, hstack⟩ := (exists_run_iff _).mpr hchain
    exact ⟨cs, s, hrun, by rw [hstack, List.reverse_reverse]⟩

/-- A stack of the greatest length in a text without a form, ahead of a parenthesis that closes nothing, and a
stack with an empty segment. -/
theorem run_stack_segments_full :
    toPostfix "(8)-*+/(5/-*))2".toList = .error .unexpectedClosing ∧
    (∃ s : Conversion,
      run {} ("(8)-*+/(5/-*))2".toList.take 12) = .ok s ∧
      s.stack.reverse = joinSegments [[.plus, .dividedBy], [.minus, .times]] ∧
      s.depth + 1 = 2 ∧
      s.stack.length ≤ 3 * s.depth + 2 ∧
      s.stack.length = 5) ∧
    ∃ (cs : List Char) (s : Conversion),
      run {} cs = .ok s ∧ s.stack.reverse = joinSegments [[.plus, .dividedBy], [], [.minus]] := by
  have hrun :
      run {} ("(8)-*+/(5/-*))2".toList.take 12) =
        .ok ⟨[.operator .dividedBy, .operand "5".toList, .operator .minus, .operator .times,
            .operand "8".toList], [],
          [.operator .times, .operator .minus, .opening, .operator .dividedBy, .operator .plus]⟩ := by
    rfl
  obtain ⟨-, hdepth, hlength⟩ := run_stack_segments.1 _ 12 _ hrun
  exact ⟨rfl, ⟨_, hrun, rfl, hdepth, hlength, rfl⟩, run_stack_segments.2 _ (by decide)⟩

end Conversion
end Expression
end Reckoner
