import Reckoner.Proofs.Expression.OperatorReadings
import Reckoner.Proofs.Expression.TreeEvaluation
import Reckoner.Proofs.Number.NumeralFailures

/-!
# Exact evaluation

Where all numerals of an expression are exact, so are all values on the way, and the evaluation is
a walk over the tree in post-order that computes with the numbers of `ℚ` and looks, at every node,
at the divisor first and then at the range of the reduced result.  The first node that offends
decides the failure; where none does, the value is the number of the whole tree.  A numeral of
thousands of places offends in one more way, if an integer in it has too many digits for a text.

**Results.**
* `evalExact_meets`: the recursive evaluation on rationals meets the walk.
* `eval_eq_evalExact`: on exact numerals the evaluation is the one on rationals, at any scale.
* `evaluate_exact`: both together for the text of an expression.
-/

namespace Reckoner

namespace Expression
namespace Tree

/-- The number of a tree. -/
def toRat : Tree → ℚ
  | numeral text => Numeral.toRat text
  | operation op left right => op.onRat (toRat left) (toRat right)

/-- The subtrees of a tree in post-order; the tree itself is the last. -/
def subtrees : Tree → List Tree
  | numeral text => [numeral text]
  | operation op left right =>
      subtrees left ++ subtrees right ++ [operation op left right]

/-- Whether a tree is a quotient by the number zero. -/
def dividesByZero : Tree → Bool
  | operation .dividedBy _ right => decide (toRat right = 0)
  | _ => false

/-- Whether a tree is a numeral that meets the limit of texts. -/
def isBeyondText : Tree → Bool
  | numeral text => decide (Numeral.BeyondText text)
  | _ => false

/-- How a tree offends by itself: as a quotient by zero, as a numeral beyond the limit of texts, or by a
number whose reduced parts do not fit. -/
def offence? (t : Tree) : Option Failure.Kind :=
  if t.dividesByZero then some .divisionByZero
  else if t.isBeyondText then some .invalidArgument
  else if FitsWords t.toRat.num t.toRat.den then none
  else some .fractionOverflow

/-- The offence of the first subtree in post-order that has one. -/
def firstOffence? (t : Tree) : Option Failure.Kind := t.subtrees.findSome? offence?

/-- The value of a tree by recursion, on rationals. -/
def evalExact : Tree → Except Failure Rational
  | numeral text => Numeral.toRational text
  | operation op left right =>
      match evalExact left with
      | .error f => .error f
      | .ok a =>
          match evalExact right with
          | .error f => .error f
          | .ok b => op.operation.exact a b

/-- A result as a walk over numbers foretells it: the offence or else the number. -/
def Meets
    (offence : Option Failure.Kind)
    (x : ℚ)
    (r : Except Failure Rational) : Prop :=
  match offence with
  | none => ∃ q : Rational, r = .ok q ∧ q.toRat = x
  | some k => ∃ f : Failure, r = .error f ∧ f.kind = k

theorem meets_ofRat
    {x : ℚ}
    (hwritable : WritableParts x) :
    Meets (if FitsWords x.num x.den then none else some .fractionOverflow) x
      (Rational.ofRat x) := by
  by_cases h : FitsWords x.num x.den
  · rw [if_pos h]
    exact Rational.ofRat_of_fits h
  · rw [if_neg h]
    exact ⟨_, Rational.ofRat_of_writable h hwritable, rfl⟩

theorem offence?_of_beyondText
    {cs : List Char}
    (h : Numeral.BeyondText cs) :
    (numeral cs).offence? = some .invalidArgument := by
  simp [offence?, dividesByZero, isBeyondText, h]

theorem offence?_numeral
    {cs : List Char}
    (h : ¬ Numeral.BeyondText cs) :
    (numeral cs).offence? =
      if FitsWords (Numeral.toRat cs).num (Numeral.toRat cs).den then none
      else some .fractionOverflow := by
  have hlimit : (numeral cs).isBeyondText = false :=
    decide_eq_false h
  simp only [offence?, dividesByZero, hlimit, Bool.false_eq_true, if_false]
  rfl

theorem meets_numeral
    {cs : List Char}
    (h : Numeral.IsLiteral cs) :
    Meets (numeral cs).offence? (Numeral.toRat cs) (Numeral.toRational cs) := by
  by_cases hlimit : Numeral.BeyondText cs
  · rw [offence?_of_beyondText hlimit]
    obtain ⟨digits, hdigits⟩ := Numeral.toRational_of_beyondText h hlimit
    exact ⟨_, hdigits, rfl⟩
  · rw [offence?_numeral hlimit]
    by_cases hfits : FitsWords (Numeral.toRat cs).num (Numeral.toRat cs).den
    · rw [if_pos hfits, Numeral.toRational_of_fits h hlimit hfits]
      exact Rational.ofRat_of_fits hfits
    · rw [if_neg hfits]
      exact Numeral.toRational_of_not_fits h hlimit hfits

/-- An operation on the numbers of two trees offends as the tree of the operation does. -/
theorem meets_operation
    (op : Operator)
    (l r : Tree)
    {a b : Rational}
    (ha : a.toRat = l.toRat)
    (hb : b.toRat = r.toRat) :
    Meets (operation op l r).offence? (operation op l r).toRat (op.operation.exact a b) := by
  have hwritable := op.writableParts_onRat a b
  rw [Operator.exact_eq_ofRat, ha, hb]
  rw [ha, hb] at hwritable
  by_cases hzero : op = .dividedBy ∧ r.toRat = 0
  · obtain ⟨rfl, hr⟩ := hzero
    simp only [offence?, dividesByZero, hr, and_self, decide_true, if_true]
    exact ⟨_, rfl, rfl⟩
  · have hnot : (operation op l r).dividesByZero = false := by
      cases op <;> simp_all [dividesByZero]
    rw [if_neg hzero]
    simp only [offence?, hnot, isBeyondText, Bool.false_eq_true, if_false]
    exact meets_ofRat hwritable

theorem firstOffence?_numeral
    (cs : List Char) :
    (numeral cs).firstOffence? = (numeral cs).offence? := by
  simp only [firstOffence?, subtrees, List.findSome?_singleton]

theorem firstOffence?_operation
    (op : Operator)
    (l r : Tree) :
    (operation op l r).firstOffence? =
      (l.firstOffence?.or r.firstOffence?).or (operation op l r).offence? := by
  simp only [firstOffence?, subtrees, List.findSome?_append, List.findSome?_singleton]

/-- The recursion on rationals meets the walk over numbers. -/
theorem evalExact_meets
    {t : Tree}
    (h : ∀ cs ∈ t.numerals, Numeral.IsLiteral cs) :
    Meets t.firstOffence? t.toRat t.evalExact := by
  induction t with
  | numeral cs =>
      rw [firstOffence?_numeral]
      exact meets_numeral (forall_numerals_numeral.mp h)
  | operation op l r ihl ihr =>
      obtain ⟨hnl, hnr⟩ := forall_numerals_operation.mp h
      have hl := ihl hnl
      have hr := ihr hnr
      rw [firstOffence?_operation]
      cases hlo : l.firstOffence? with
      | some k =>
          rw [hlo] at hl
          obtain ⟨f, hf, hk⟩ := hl
          exact ⟨f, by simp [evalExact, hf], hk⟩
      | none =>
          rw [hlo] at hl
          obtain ⟨a, ha, hax⟩ := hl
          cases hro : r.firstOffence? with
          | some k =>
              rw [hro] at hr
              obtain ⟨f, hf, hk⟩ := hr
              exact ⟨f, by simp [evalExact, ha, hf], hk⟩
          | none =>
              rw [hro] at hr
              obtain ⟨b, hb, hbx⟩ := hr
              have hop := meets_operation op l r hax hbx
              simpa [evalExact, ha, hb] using hop

/-- On exact numerals the evaluation is the one on rationals, and all values have the scale of the
precision. -/
theorem eval_eq_evalExact
    {p : Precision}
    (hscale : 1 ≤ p.scale)
    {t : Tree}
    (h : ∀ cs ∈ t.numerals, Numeral.isNumeral cs = true)
    (hplaces : ∀ cs ∈ t.numerals, ((Numeral.fraction cs).length : Int) ≤ p.exactPlaces) :
    t.eval p =
      t.evalExact.map fun q => ⟨.exact q, p.scale.toNat, by omega⟩ := by
  induction t with
  | numeral cs =>
      have hcs : Numeral.isNumeral cs = true :=
        forall_numerals_numeral.mp h
      have hexact : ¬ p.exactPlaces < ((Numeral.fraction cs).length : Int) :=
        Int.not_lt.mpr (forall_numerals_numeral.mp hplaces)
      have hpos : ¬ p.scale < 1 :=
        Int.not_lt.mpr hscale
      simp only [eval, evalExact, Numeral.toValue, hcs, Bool.not_true, Bool.false_eq_true, if_false,
        if_neg hexact, Value.ofRational, Value.ofNumber, dif_neg hpos]
      cases Numeral.toRational cs <;> rfl
  | operation op l r ihl ihr =>
      obtain ⟨hnl, hnr⟩ := forall_numerals_operation.mp h
      obtain ⟨hpl, hpr⟩ := forall_numerals_operation.mp hplaces
      rw [eval, evalExact, ihl hnl hpl, ihr hnr hpr]
      cases l.evalExact with
      | error f =>
          rfl
      | ok a =>
          cases r.evalExact with
          | error f =>
              rfl
          | ok b =>
              exact op.apply_exact a b _

end Tree

/-- An expression of exact numerals evaluates to the exact value of the number of its tree, in
lowest terms, if no subtree offends, and otherwise fails as the first subtree in post-order that
does, be it as a quotient by zero, for its range or, as a numeral only, for the limit of texts.  The
scale of the precision becomes the scale of the value and changes nothing else. -/
theorem evaluate_exact
    {cs : List Char} {t : Tree}
    (d : Sentence .expression cs t)
    (p : Precision)
    (hscale : 1 ≤ p.scale)
    (hplaces : ∀ ds ∈ t.numerals, ((Numeral.fraction ds).length : Int) ≤ p.exactPlaces) :
    (match t.firstOffence? with
      | none =>
          ∃ (v : Value) (q : Rational),
            (evaluate p cs).result = .ok v ∧
            v.number = .exact q ∧
            q.num = t.toRat.num ∧
            q.den = t.toRat.den ∧
            (v.scale : Int) = p.scale
      | some k =>
          ∃ f : Failure, (evaluate p cs).result = .error f ∧ f.kind = k) ∧
    ∀ scale : Int,
      1 ≤ scale →
      (evaluate { p with scale := scale } cs).result.map Value.number =
        (evaluate p cs).result.map Value.number := by
  have hresult :
      ∀ (scale : Int) (h : 1 ≤ scale),
        (evaluate { p with scale := scale } cs).result =
          t.evalExact.map fun q => ⟨.exact q, scale.toNat, by omega⟩ := by
    intro scale h
    rw [evaluate_of_sentence d]
    exact Tree.eval_eq_evalExact h (isNumeral_of_mem_numerals d) hplaces
  have hp := hresult p.scale hscale
  have hmeets := Tree.evalExact_meets d.leaf_of_mem_numerals
  refine ⟨?_, ?_⟩
  · cases hfirst : t.firstOffence? with
    | none =>
        rw [hfirst] at hmeets
        obtain ⟨q, hq, hx⟩ := hmeets
        rw [hq] at hp
        refine ⟨_, q, hp, rfl, ?_, ?_, ?_⟩
        · rw [← hx, Rational.num_toRat]
        · rw [← hx, Rational.den_toRat]
        · exact Int.toNat_of_nonneg (by omega)
    | some k =>
        rw [hfirst] at hmeets
        obtain ⟨f, hf, hk⟩ := hmeets
        rw [hf] at hp
        exact ⟨f, hp, hk⟩
  · intro scale h
    rw [hresult scale h, hp]
    cases t.evalExact <;> rfl

/-- The product of a half and two has a numerator beyond the words before it is reduced, and no
offence. -/
theorem evaluate_exact_beyond_words :
    ∃ (v : Value) (q : Rational),
      (evaluate ⟨3, 0⟩ "9223372036854775807/2*2".toList).result = .ok v ∧
      v.number = .exact q ∧
      q.num = 9223372036854775807 ∧
      q.den = 1 ∧
      (v.scale : Int) = 3 := by
  have literal :
      ∀ ds : List Char, ds ≠ [] → ds.all Char.isDigit = true →
        Sentence .factor ds (.numeral ds) := by
    intro ds hne hds
    exact .numeral (.integer hne (List.all_eq_true.mp hds))
  have greatest := literal "9223372036854775807".toList (by decide) (by decide)
  have two := literal ['2'] (by decide) (by decide)
  have sentence :=
    Derives.ofTerm
      (Derives.product .times rfl (Derives.product .dividedBy rfl (.ofFactor greatest) two) two)
  have hexact := (evaluate_exact sentence ⟨3, 0⟩ (by decide) (by decide +kernel)).1
  rw [show Tree.firstOffence? _ = none by decide +kernel] at hexact
  obtain ⟨v, q, hresult, hnumber, hnum, hden, hscale⟩ := hexact
  refine ⟨v, q, hresult, hnumber, hnum.trans ?_, hden.trans ?_, hscale⟩
  · decide +kernel
  · decide +kernel

/-- One half, with more zeros after it than can be read: nothing in the expression leaves the words, but it
has no value. -/
theorem evaluate_exact_padded :
    ∃ t : Tree,
      Sentence .expression (Numeral.padded 4400) t ∧
      (∀ ds ∈ t.numerals, ((Numeral.fraction ds).length : Int) ≤ 5000) ∧
      (∀ s ∈ t.subtrees, s.dividesByZero = false ∧ FitsWords s.toRat.num s.toRat.den) ∧
      t.toRat = 1 / 2 ∧
      ∃ f : Failure,
        (evaluate ⟨10, 5000⟩ (Numeral.padded 4400)).result = .error f ∧
        f.kind = .invalidArgument := by
  have hlimit : Numeral.MeetsTextLimit ⟨10, 5000⟩ (Numeral.padded 4400) :=
    Numeral.meetsTextLimit_padded (longestInteger_eq.trans_le (by decide)) (by decide)
  have hsentence : Sentence .expression (Numeral.padded 4400) (.numeral (Numeral.padded 4400)) :=
    .ofTerm (.ofFactor (.numeral hlimit.isLiteral))
  have hnumber : (Tree.numeral (Numeral.padded 4400)).toRat = 1 / 2 :=
    Numeral.toRat_padded
  have hfits : FitsWords (1 / 2 : ℚ).num (1 / 2 : ℚ).den := by
    decide +kernel
  obtain ⟨digits, hvalue⟩ := hlimit.toValue_eq (by decide)
  refine ⟨_, hsentence, ?_, ?_, hnumber, .integerLength digits, ?_, rfl⟩
  · intro ds hds
    rw [List.mem_singleton.mp hds, Numeral.length_fraction_padded]
    decide
  · intro s hs
    rw [List.mem_singleton.mp hs, hnumber]
    exact ⟨rfl, hfits⟩
  · simp only [evaluate_of_sentence hsentence, Tree.eval, hvalue]

end Expression
end Reckoner
