import Reckoner.Proofs.Expression.OperatorReadings
import Reckoner.Proofs.Expression.TokenFold
import Reckoner.Proofs.Number.NumeralValue

/-!
# Approximation

A value becomes approximate in one place, where a numeral has more places than are exact, and an
operation passes this on from either operand to its result.  So a fold leaves an approximate value only
where it found one, on the stack or among its numerals, and leaves one always if it loses no values.
All values have the scale of the evaluation.

**Results.**
* `Value.apply_eq_ok`: the scale and the kind of the result of an operation.
* `Folds.scale_eq`: a fold keeps to one scale.
* `Folds.approximate_or`, `Folds.exists_approximate`: where approximate values come from, and that they
  stay where nothing is lost.
* `evaluate_approximate_iff`: the scale and the kind of the value of an evaluation.
-/

namespace Reckoner

namespace Value

/-- The result of an operation has the larger scale, and is exact if both operands are. -/
theorem apply_eq_ok
    {op : Operation}
    {a b v : Value}
    (h : apply op a b = .ok v) :
    v.scale = max a.scale b.scale ∧
    v.number.isExact = (a.number.isExact && b.number.isExact) := by
  obtain ⟨x, scale, pos⟩ := a
  obtain ⟨y, scale', pos'⟩ := b
  have approximate :
      ∀ {r : Except Failure Decimal},
        (r.map fun d => (⟨.approximate d, max scale scale', le_trans pos (le_max_left _ _)⟩ : Value)) =
          .ok v →
        v.scale = max scale scale' ∧ v.number.isExact = false := by
    intro r hr
    cases r with
    | error f =>
        cases hr
    | ok d =>
        cases hr
        exact ⟨rfl, rfl⟩
  cases x with
  | exact q =>
      cases y with
      | exact q' =>
          simp only [apply] at h
          cases hr : op.exact q q' with
          | error f =>
              rw [hr] at h
              cases h
          | ok r =>
              rw [hr] at h
              cases h
              exact ⟨rfl, rfl⟩
      | approximate d =>
          exact approximate h
  | approximate d =>
      cases y <;> exact approximate h

end Value

/-- So it is for an operator. -/
theorem Operator.apply_eq_ok
    {op : Operator}
    {left right v : Value}
    (h : op.apply left right = .ok v) :
    v.scale = max left.scale right.scale ∧
    v.number.isExact = (left.number.isExact && right.number.isExact) := by
  rw [apply_eq_apply_operation] at h
  exact Value.apply_eq_ok h

/-- A numeral has the scale of the evaluation, and is exact if it has few enough places. -/
theorem Numeral.toValue_eq_ok
    {p : Precision}
    (hscale : 1 ≤ p.scale)
    {cs : List Char}
    (hnumeral : isNumeral cs = true)
    {v : Value}
    (h : toValue p cs = .ok v) :
    (v.scale : Int) = p.scale ∧
    (v.number.isExact = false ↔ p.exactPlaces < ((fraction cs).length : Int)) := by
  have hpos : (p.scale.toNat : Int) = p.scale :=
    Int.toNat_of_nonneg (by omega)
  rw [toValue_of_isNumeral hscale hnumeral] at h
  by_cases hfine : p.exactPlaces < ((fraction cs).length : Int)
  · rw [if_pos hfine] at h
    cases h
    exact ⟨hpos, by simp [hfine, Number.isExact]⟩
  · rw [if_neg hfine] at h
    cases hread : toRational cs with
    | error f =>
        rw [hread] at h
        cases h
    | ok q =>
        rw [hread] at h
        cases h
        exact ⟨hpos, by simp [hfine, Number.isExact]⟩

namespace Expression

/-- Whether a numeral with more places than are exact is among the tokens. -/
def HasFineNumeral (p : Precision) (tokens : List Token) : Prop :=
  ∃ cs : List Char,
    Token.operand cs ∈ tokens ∧
    Numeral.isNumeral cs = true ∧
    p.exactPlaces < ((Numeral.fraction cs).length : Int)

/-- Whether an approximate value is among the values of a stack. -/
def HasApproximate (stack : List Value) : Prop :=
  ∃ v ∈ stack, v.number.isExact = false

@[simp] theorem hasApproximate_cons
    (v : Value)
    (stack : List Value) :
    HasApproximate (v :: stack) ↔ v.number.isExact = false ∨ HasApproximate stack := by
  simp [HasApproximate]

section Folds

variable {p : Precision}
variable {stack stack' : List Value}
variable {tokens : List Token}
variable {losses : List Event}

theorem hasFineNumeral_operand
    {cs : List Char}
    (h : Numeral.isNumeral cs = true) :
    HasFineNumeral p (.operand cs :: tokens) ↔
      p.exactPlaces < ((Numeral.fraction cs).length : Int) ∨ HasFineNumeral p tokens := by
  simp [HasFineNumeral, or_and_right, exists_or, h]

theorem hasFineNumeral_lost
    {cs : List Char}
    (h : Numeral.isNumeral cs = false) :
    HasFineNumeral p (.operand cs :: tokens) ↔ HasFineNumeral p tokens := by
  simp [HasFineNumeral, or_and_right, exists_or, h]

theorem hasFineNumeral_operator
    (op : Operator) :
    HasFineNumeral p (.operator op :: tokens) ↔ HasFineNumeral p tokens := by
  simp [HasFineNumeral]

/-- A fold keeps to the scale of its evaluation. -/
theorem Folds.scale_eq
    (hscale : 1 ≤ p.scale)
    (h : Folds p stack tokens losses stack')
    (hstack : ∀ v ∈ stack, (v.scale : Int) = p.scale) :
    ∀ v ∈ stack', (v.scale : Int) = p.scale := by
  induction h with
  | nil stack =>
      exact hstack
  | numeral hnumeral hvalue _ ih =>
      refine ih (List.forall_mem_cons.mpr ⟨?_, hstack⟩)
      exact (Numeral.toValue_eq_ok hscale hnumeral hvalue).1
  | lost _ _ ih =>
      exact ih (List.forall_mem_cons.mp (List.forall_mem_cons.mp hstack).2).2
  | operator hvalue _ ih =>
      obtain ⟨hright, hrest⟩ := List.forall_mem_cons.mp hstack
      obtain ⟨hleft, hrest⟩ := List.forall_mem_cons.mp hrest
      refine ih (List.forall_mem_cons.mpr ⟨?_, hrest⟩)
      rw [(Operator.apply_eq_ok hvalue).1]
      omega

/-- An approximate value comes from the stack or from a numeral. -/
theorem Folds.approximate_or
    (hscale : 1 ≤ p.scale)
    (h : Folds p stack tokens losses stack')
    (hstack' : HasApproximate stack') :
    HasApproximate stack ∨ HasFineNumeral p tokens := by
  induction h with
  | nil stack =>
      exact .inl hstack'
  | numeral hnumeral hvalue _ ih =>
      rw [hasFineNumeral_operand hnumeral]
      rcases ih hstack' with happroximate | hfine
      · rcases (hasApproximate_cons _ _).mp happroximate with hnew | hstack
        · exact .inr (.inl ((Numeral.toValue_eq_ok hscale hnumeral hvalue).2.mp hnew))
        · exact .inl hstack
      · exact .inr (.inr hfine)
  | lost hnumeral _ ih =>
      rw [hasFineNumeral_lost hnumeral]
      rcases ih hstack' with hstack | hfine
      · exact .inl (by simp [hstack])
      · exact .inr hfine
  | operator hvalue _ ih =>
      rw [hasFineNumeral_operator]
      rcases ih hstack' with happroximate | hfine
      · rw [hasApproximate_cons, (Operator.apply_eq_ok hvalue).2, Bool.and_eq_false_iff]
          at happroximate
        rw [hasApproximate_cons, hasApproximate_cons]
        left
        tauto
      · exact .inr hfine

/-- Where no values are lost, an approximate value on the stack or among the numerals leaves one. -/
theorem Folds.exists_approximate
    (hscale : 1 ≤ p.scale)
    (h : Folds p stack tokens losses stack')
    (hlosses : losses = [])
    (hfound : HasApproximate stack ∨ HasFineNumeral p tokens) :
    HasApproximate stack' := by
  induction h with
  | nil stack =>
      rcases hfound with hstack | ⟨cs, hcs, -⟩
      · exact hstack
      · exact absurd hcs List.not_mem_nil
  | numeral hnumeral hvalue _ ih =>
      rw [hasFineNumeral_operand hnumeral] at hfound
      refine ih hlosses ?_
      rw [hasApproximate_cons, (Numeral.toValue_eq_ok hscale hnumeral hvalue).2]
      tauto
  | lost _ _ _ =>
      exact absurd hlosses (List.cons_ne_nil _ _)
  | operator hvalue _ ih =>
      rw [hasFineNumeral_operator, hasApproximate_cons, hasApproximate_cons] at hfound
      refine ih hlosses ?_
      rw [hasApproximate_cons, (Operator.apply_eq_ok hvalue).2, Bool.and_eq_false_iff]
      tauto

/-- The value of an evaluation has its scale.  It is exact where no numeral of the postfix form has more
places than are exact, and where nothing was warned of, it is approximate for no other reason. -/
theorem evaluate_approximate_iff
    (hscale : 1 ≤ p.scale)
    {cs : List Char}
    {v : Value}
    (h : (evaluate p cs).result = .ok v) :
    (v.scale : Int) = p.scale ∧
    ∃ tokens : List Token,
      toPostfix (insertProducts cs) = .ok tokens ∧
      ((evaluate p cs).warnings = [] →
        (v.number.isExact = false ↔ HasFineNumeral p tokens)) ∧
      (¬ HasFineNumeral p tokens → v.number.isExact = true) := by
  obtain ⟨tokens, losses, htokens, hfolds, hevaluate⟩ := folds_of_evaluate h
  have hsource : v.number.isExact = false → HasFineNumeral p tokens := by
    intro happroximate
    rcases hfolds.approximate_or hscale ⟨v, by simp, happroximate⟩ with ⟨w, hw, -⟩ | hfine
    · exact absurd hw List.not_mem_nil
    · exact hfine
  refine ⟨hfolds.scale_eq hscale (by simp) v (by simp), tokens, htokens, ?_, ?_⟩
  · intro hwarnings
    have hlosses : losses = [] := by
      rw [hevaluate] at hwarnings
      simpa [Outcome.warnings, Event.isWarning, List.filter_eq_self.mpr hfolds.isWarning]
        using hwarnings
    refine ⟨hsource, ?_⟩
    intro hfine
    obtain ⟨w, hw, happroximate⟩ := hfolds.exists_approximate hscale hlosses (.inr hfine)
    rw [← List.mem_singleton.mp hw]
    exact happroximate
  · intro hnone
    rw [← Bool.not_eq_false]
    exact mt hsource hnone

/-- A product with more than two places makes the sum with a third approximate. -/
theorem evaluate_approximate_iff_fine :
    ∃ (v : Value) (tokens : List Token),
      (evaluate ⟨4, 2⟩ "1/3+0.125*2".toList).result = .ok v ∧
      toPostfix (insertProducts "1/3+0.125*2".toList) = .ok tokens ∧
      (v.scale : Int) = 4 ∧
      (v.number.isExact = false ↔ HasFineNumeral ⟨4, 2⟩ tokens) := by
  have hvalue :
      (evaluate ⟨4, 2⟩ "1/3+0.125*2".toList).result =
        .ok ⟨.approximate ⟨false, 5833000, -7⟩, 4, by decide⟩ := by
    decide +kernel
  obtain ⟨hscale, tokens, htokens, hiff, -⟩ := evaluate_approximate_iff (by decide) hvalue
  exact ⟨_, tokens, hvalue, htokens, hscale, hiff (by decide +kernel)⟩

end Folds

end Expression
end Reckoner
