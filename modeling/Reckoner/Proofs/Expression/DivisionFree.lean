import Reckoner.Proofs.Expression.ExactEvaluation
import Reckoner.Proofs.Number.DecimalArithmetic
import Reckoner.Proofs.Number.DecimalText

/-!
# Expressions without quotients

Without quotients the number of an expression has finitely many places, and how many it has at most is
counted along its tree: a product has those of both factors, a sum or difference those of the operand
that has more.  An exact value becomes a decimal where it meets an approximate one, and that is at the
upper end of a subtree whose numerals are all exact and that lies in no larger one.  So where these
subtrees do not count more places than the scale has, no digit is lost, however exact and approximate
numerals are mixed.

**Results.**
* `Tree.hasPlaces_toRat`: the number of a tree without quotients has the places that are counted.
* `Tree.kind_of_eval`: the value of a tree is exact if its numerals are.
* `Tree.toRat_of_eval`: where no conversion loses a digit, the value of a tree has its number.
* `evaluate_divisionFree`: the same for the text of an expression, with the condition on the largest
  subtrees of exact numerals.
-/

namespace Reckoner

/-- A numeral has the number that it writes, whatever kind of value it becomes. -/
theorem Numeral.toRat_of_toValue
    {p : Precision}
    (hscale : 1 ≤ p.scale)
    {cs : List Char}
    (h : IsLiteral cs)
    {v : Value}
    (hv : toValue p cs = .ok v) :
    v.number.toRat = toRat cs := by
  rw [toValue_of_isNumeral hscale (isNumeral_of_isLiteral h)] at hv
  split at hv
  · cases hv
    exact toRat_toDecimal h
  · cases hread : toRational cs with
    | error f =>
        rw [hread] at hv
        cases hv
    | ok q =>
        rw [hread] at hv
        cases hv
        exact toRat_of_toRational h hread

/-- The number of a numeral has the places after its point. -/
theorem Numeral.hasPlaces_toRat
    (cs : List Char) :
    HasPlaces (toRat cs) (fraction cs).length := by
  refine ⟨digitsValue (whole cs ++ fraction cs), ?_⟩
  have hpow : (10 : ℚ) ^ (fraction cs).length ≠ 0 := by
    positivity
  rw [toRat_eq_div, Int.cast_natCast (tenPow _), cast_tenPow, div_mul_cancel₀ _ hpow]

namespace Operator

section Apply

variable {op : Operator}
variable {a b v : Value}

/-- A sum, difference or product of exact values is that of their numbers. -/
theorem toRat_of_apply_exact
    (hop : op ≠ dividedBy)
    (h : op.apply a b = .ok v)
    (ha : a.number.isExact = true)
    (hb : b.number.isExact = true) :
    v.number.toRat = op.onRat a.number.toRat b.number.toRat := by
  cases hx : a.number with
  | approximate x =>
      rw [hx] at ha
      cases ha
  | exact p =>
      cases hy : b.number with
      | approximate y =>
          rw [hy] at hb
          cases hb
      | exact q =>
          obtain ⟨hfits, hfails⟩ := exists_apply_of_exact hop hx hy
          by_cases hrange : FitsWords (op.onRat p.toRat q.toRat).num (op.onRat p.toRat q.toRat).den
          · obtain ⟨w, r, hw, hr, hnumber⟩ := hfits hrange
            rw [h] at hw
            cases hw
            rw [hr]
            exact hnumber
          · obtain ⟨f, hf, -⟩ := hfails hrange
            rw [h] at hf
            cases hf

/-- Beside an approximate value this takes that an exact one has no more places than it is rounded to. -/
theorem toRat_of_apply_approximate
    (hop : op ≠ dividedBy)
    (h : op.apply a b = .ok v)
    (happroximate : a.number.isExact = false ∨ b.number.isExact = false)
    (ha : a.number.isExact = true → HasPlaces a.number.toRat (max a.scale b.scale))
    (hb : b.number.isExact = true → HasPlaces b.number.toRat (max a.scale b.scale)) :
    v.number.toRat = op.onRat a.number.toRat b.number.toRat := by
  obtain ⟨w, d, hw, hd, hnumber⟩ := exists_apply_of_approximate hop happroximate
  rw [h] at hw
  cases hw
  rw [hd, ← Number.toRat_toDecimal ha, ← Number.toRat_toDecimal hb]
  exact hnumber

end Apply

end Operator

namespace Expression
namespace Tree

variable {p : Precision}

/-- The operators of a tree. -/
def operators : Tree → List Operator
  | numeral _ => []
  | operation op left right => op :: (operators left ++ operators right)

/-- Whether no numeral of a tree has more places than are exact. -/
def HasExactNumerals (p : Precision) (t : Tree) : Prop :=
  ∀ cs ∈ t.numerals, ((Numeral.fraction cs).length : ℤ) ≤ p.exactPlaces

instance (p : Precision) (t : Tree) : Decidable (t.HasExactNumerals p) := by
  unfold HasExactNumerals
  infer_instance

/-- The places of a tree as they are counted: those of a numeral, the greater of those of a sum or
difference, and all of those of a product. -/
def places : Tree → ℕ
  | numeral text => (Numeral.fraction text).length
  | operation .times left right => places left + places right
  | operation _ left right => max (places left) (places right)

/-- The largest subtrees without a numeral of more places than are exact. -/
def exactParts (p : Precision) : Tree → List Tree
  | numeral text => if (numeral text).HasExactNumerals p then [numeral text] else []
  | operation op left right =>
      if (operation op left right).HasExactNumerals p then [operation op left right]
      else exactParts p left ++ exactParts p right

theorem hasExactNumerals_numeral
    (p : Precision)
    (cs : List Char) :
    (numeral cs).HasExactNumerals p ↔ ((Numeral.fraction cs).length : ℤ) ≤ p.exactPlaces :=
  forall_numerals_numeral

theorem hasExactNumerals_operation
    (p : Precision)
    (op : Operator)
    (l r : Tree) :
    (operation op l r).HasExactNumerals p ↔ l.HasExactNumerals p ∧ r.HasExactNumerals p :=
  forall_numerals_operation

theorem forall_operators_operation
    {P : Operator → Prop}
    {op : Operator}
    {l r : Tree} :
    (∀ o ∈ (operation op l r).operators, P o) ↔
      P op ∧ (∀ o ∈ l.operators, P o) ∧ ∀ o ∈ r.operators, P o := by
  simp [operators, or_imp, forall_and]

theorem exactParts_of_hasExactNumerals
    {t : Tree}
    (h : t.HasExactNumerals p) :
    t.exactParts p = [t] := by
  cases t <;> rw [exactParts, if_pos h]

theorem exactParts_operation
    {op : Operator}
    {l r : Tree}
    (h : ¬ (operation op l r).HasExactNumerals p) :
    (operation op l r).exactParts p = l.exactParts p ++ r.exactParts p := by
  rw [exactParts, if_neg h]

theorem eval_operation_eq_ok
    {op : Operator}
    {l r : Tree}
    {v : Value}
    (h : (operation op l r).eval p = .ok v) :
    ∃ a b : Value, l.eval p = .ok a ∧ r.eval p = .ok b ∧ op.apply a b = .ok v := by
  rw [eval] at h
  cases hl : l.eval p with
  | error f =>
      rw [hl] at h
      cases h
  | ok a =>
      cases hr : r.eval p with
      | error f =>
          rw [hl, hr] at h
          cases h
      | ok b =>
          rw [hl, hr] at h
          exact ⟨a, b, rfl, rfl, h⟩

/-- Without quotients, the number of a tree has the places that are counted. -/
theorem hasPlaces_toRat
    {t : Tree}
    (hop : ∀ op ∈ t.operators, op ≠ .dividedBy) :
    HasPlaces t.toRat t.places := by
  induction t with
  | numeral cs =>
      exact Numeral.hasPlaces_toRat cs
  | operation op l r ihl ihr =>
      obtain ⟨hhere, hopl, hopr⟩ := forall_operators_operation.mp hop
      have hl := ihl hopl
      have hr := ihr hopr
      cases op with
      | plus =>
          exact (hl.mono (le_max_left _ _)).add (hr.mono (le_max_right _ _))
      | minus =>
          exact (hl.mono (le_max_left _ _)).sub (hr.mono (le_max_right _ _))
      | times =>
          exact hl.mul hr
      | dividedBy =>
          exact absurd rfl hhere

/-- A tree of exact numerals is its only largest part, so it has no more places than this may have. -/
theorem hasPlaces_of_exactParts
    {t : Tree}
    (hop : ∀ op ∈ t.operators, op ≠ .dividedBy)
    (hparts : ∀ u ∈ t.exactParts p, (u.places : ℤ) ≤ p.scale)
    (hexact : t.HasExactNumerals p)
    {n : ℕ}
    (hn : p.scale ≤ n) :
    HasPlaces t.toRat n := by
  have hplaces : (t.places : ℤ) ≤ p.scale :=
    hparts t (by simp [exactParts_of_hasExactNumerals hexact])
  exact (hasPlaces_toRat hop).mono (by omega)

/-- The value of a tree has the scale of the evaluation, and is exact if the numerals are. -/
theorem kind_of_eval
    (hscale : 1 ≤ p.scale)
    {t : Tree}
    (hnumerals : ∀ cs ∈ t.numerals, Numeral.isNumeral cs = true)
    {v : Value}
    (h : t.eval p = .ok v) :
    (v.scale : ℤ) = p.scale ∧ (v.number.isExact = true ↔ t.HasExactNumerals p) := by
  induction t generalizing v with
  | numeral cs =>
      obtain ⟨hv, hfine⟩ :=
        Numeral.toValue_eq_ok hscale (forall_numerals_numeral.mp hnumerals) h
      refine ⟨hv, ?_⟩
      rw [← Bool.not_eq_false, hfine, not_lt, hasExactNumerals_numeral]
  | operation op l r ihl ihr =>
      obtain ⟨a, b, ha, hb, hv⟩ := eval_operation_eq_ok h
      obtain ⟨hnl, hnr⟩ := forall_numerals_operation.mp hnumerals
      obtain ⟨hal, hae⟩ := ihl hnl ha
      obtain ⟨hbl, hbe⟩ := ihr hnr hb
      obtain ⟨hvscale, hvexact⟩ := Operator.apply_eq_ok hv
      constructor
      · rw [hvscale]
        omega
      · rw [hvexact, Bool.and_eq_true, hae, hbe, hasExactNumerals_operation]

/-- Without quotients the value of a tree has its number, if all numerals are exact or else no largest
part of exact numerals has more places than it is rounded to. -/
theorem toRat_of_eval
    (hscale : 1 ≤ p.scale)
    {t : Tree}
    (hliterals : ∀ cs ∈ t.numerals, Numeral.IsLiteral cs)
    (hop : ∀ op ∈ t.operators, op ≠ .dividedBy)
    (hparts : t.HasExactNumerals p ∨ ∀ u ∈ t.exactParts p, (u.places : ℤ) ≤ p.scale)
    {v : Value}
    (h : t.eval p = .ok v) :
    v.number.toRat = t.toRat := by
  induction t generalizing v with
  | numeral cs =>
      exact Numeral.toRat_of_toValue hscale (forall_numerals_numeral.mp hliterals) h
  | operation op l r ihl ihr =>
      obtain ⟨a, b, ha, hb, hv⟩ := eval_operation_eq_ok h
      obtain ⟨hhere, hopl, hopr⟩ := forall_operators_operation.mp hop
      obtain ⟨hlitl, hlitr⟩ := forall_numerals_operation.mp hliterals
      obtain ⟨hascale, haexact⟩ :=
        kind_of_eval hscale (fun cs hcs => Numeral.isNumeral_of_isLiteral (hlitl cs hcs)) ha
      obtain ⟨hbscale, hbexact⟩ :=
        kind_of_eval hscale (fun cs hcs => Numeral.isNumeral_of_isLiteral (hlitr cs hcs)) hb
      by_cases hexact : (operation op l r).HasExactNumerals p
      · -- Nothing is rounded between exact values, however many places they have.
        obtain ⟨hle, hre⟩ := (hasExactNumerals_operation p op l r).mp hexact
        rw [toRat, ← ihl hlitl hopl (.inl hle) ha, ← ihr hlitr hopr (.inl hre) hb]
        exact Operator.toRat_of_apply_exact hhere hv (haexact.mpr hle) (hbexact.mpr hre)
      · -- An exact operand is now a largest part, and only such a one is rounded.
        have hparts' : ∀ u ∈ l.exactParts p ++ r.exactParts p, (u.places : ℤ) ≤ p.scale := by
          rw [← exactParts_operation hexact]
          exact hparts.resolve_left hexact
        obtain ⟨hpartsl, hpartsr⟩ := List.forall_mem_append.mp hparts'
        have hal := ihl hlitl hopl (.inr hpartsl) ha
        have hbr := ihr hlitr hopr (.inr hpartsr) hb
        have happroximate : a.number.isExact = false ∨ b.number.isExact = false := by
          rw [hasExactNumerals_operation, ← haexact, ← hbexact] at hexact
          simpa [imp_iff_not_or] using hexact
        rw [toRat, ← hal, ← hbr]
        refine Operator.toRat_of_apply_approximate hhere hv happroximate ?_ ?_
        · intro hae
          rw [hal]
          exact hasPlaces_of_exactParts hopl hpartsl (haexact.mp hae) (by omega)
        · intro hbe
          rw [hbr]
          exact hasPlaces_of_exactParts hopr hpartsr (hbexact.mp hbe) (by omega)

/-- A sum or difference has no more places than one of its numerals. -/
theorem places_le_of_sums
    {t : Tree}
    {bound : ℤ}
    (hop : ∀ op ∈ t.operators, op ≠ .times)
    (h : ∀ cs ∈ t.numerals, ((Numeral.fraction cs).length : ℤ) ≤ bound) :
    (t.places : ℤ) ≤ bound := by
  induction t with
  | numeral cs =>
      exact forall_numerals_numeral.mp h
  | operation op l r ihl ihr =>
      obtain ⟨hhere, hopl, hopr⟩ := forall_operators_operation.mp hop
      obtain ⟨hnl, hnr⟩ := forall_numerals_operation.mp h
      have hl := ihl hopl hnl
      have hr := ihr hopr hnr
      have hplaces : (operation op l r).places = max l.places r.places := by
        cases op with
        | times =>
            exact absurd rfl hhere
        | plus | minus | dividedBy =>
            rfl
      rw [hplaces, Nat.cast_max]
      exact max_le hl hr

/-- The largest parts have exact numerals, and no operators but those of the tree. -/
theorem of_mem_exactParts
    {t u : Tree}
    (h : u ∈ t.exactParts p) :
    u.HasExactNumerals p ∧ u.operators ⊆ t.operators := by
  induction t with
  | numeral cs =>
      rw [exactParts, List.mem_ite_nil_right, List.mem_singleton] at h
      obtain ⟨hexact, rfl⟩ := h
      exact ⟨hexact, List.Subset.refl _⟩
  | operation op l r ihl ihr =>
      by_cases hexact : (operation op l r).HasExactNumerals p
      · rw [exactParts_of_hasExactNumerals hexact, List.mem_singleton] at h
        rw [h]
        exact ⟨hexact, List.Subset.refl _⟩
      · rw [exactParts_operation hexact, List.mem_append] at h
        rcases h with hl | hr
        · obtain ⟨hu, hsubset⟩ := ihl hl
          exact ⟨hu, List.Subset.trans hsubset (by simp [operators])⟩
        · obtain ⟨hu, hsubset⟩ := ihr hr
          exact ⟨hu, List.Subset.trans hsubset (by simp [operators])⟩

end Tree

/-- The value of an expression without quotients has the number of its tree, if the numerals are all
exact, or if the largest parts of exact numerals do not count more places than the scale.  So has the
value of every sum or difference, if all exact numerals have no more places than the scale. -/
theorem evaluate_divisionFree
    {cs : List Char} {t : Tree}
    (d : Sentence .expression cs t)
    (hop : ∀ op ∈ t.operators, op ≠ .dividedBy)
    (p : Precision)
    (hscale : 1 ≤ p.scale)
    {v : Value}
    (hv : (evaluate p cs).result = .ok v) :
    (t.HasExactNumerals p ∨ (∀ u ∈ t.exactParts p, (u.places : ℤ) ≤ p.scale) →
      v.number.toRat = t.toRat) ∧
    (p.exactPlaces ≤ p.scale → (∀ op ∈ t.operators, op ≠ .times) → v.number.toRat = t.toRat) := by
  have heval : t.eval p = .ok v := by
    rwa [evaluate_of_sentence d] at hv
  have hvalue :
      t.HasExactNumerals p ∨ (∀ u ∈ t.exactParts p, (u.places : ℤ) ≤ p.scale) →
        v.number.toRat = t.toRat :=
    fun hparts => Tree.toRat_of_eval hscale d.leaf_of_mem_numerals hop hparts heval
  refine ⟨hvalue, ?_⟩
  intro hle hsums
  refine hvalue (.inr ?_)
  intro u hu
  obtain ⟨hexact, hsubset⟩ := Tree.of_mem_exactParts hu
  exact (Tree.places_le_of_sums (fun op ho => hsums op (hsubset ho)) hexact).trans hle

/-- The product has the three places that it is rounded to, so the sum with a decimal keeps them all. -/
theorem evaluate_divisionFree_product :
    ∃ (v : Value) (t : Tree),
      (evaluate ⟨3, 2⟩ "0.5*0.25+0.12345".toList).result = .ok v ∧
      Sentence .expression "0.5*0.25+0.12345".toList t ∧
      v.number.toRat = t.toRat ∧
      t.toRat = 24845 / 100000 := by
  have literal :
      ∀ ds : List Char, Numeral.isPlain ds = true → Sentence .factor ds (.numeral ds) :=
    fun ds hds => .numeral ((Numeral.isPlain_iff_isLiteral ds).mp hds)
  have sentence :=
    Derives.sum .plus rfl
      (.ofTerm (.product .times rfl (.ofFactor (literal "0.5".toList (by decide)))
        (literal "0.25".toList (by decide))))
      (.ofFactor (literal "0.12345".toList (by decide)))
  have hvalue :
      (evaluate ⟨3, 2⟩ "0.5*0.25+0.12345".toList).result =
        .ok ⟨.approximate ⟨false, 24845, -5⟩, 3, by decide⟩ := by
    decide +kernel
  have hnumber :=
    (evaluate_divisionFree sentence (by decide) ⟨3, 2⟩ (by decide) hvalue).1
      (.inr (by decide +kernel))
  refine ⟨_, _, hvalue, sentence, hnumber, hnumber.symm.trans ?_⟩
  norm_num [Number.toRat, Decimal.toRat, Decimal.signed]

end Expression
end Reckoner
