import Mathlib.Data.List.Basic
import Mathlib.Data.List.Induction
import Reckoner.Proofs.Expression.ImpliedProducts
import Reckoner.Proofs.Expression.MeaningfulCharacters
import Reckoner.Proofs.Text.Stripping

/-!
# Ignored characters

A character without a meaning implies no product with its neighbours.  So an evaluation does not see
which of them stands in a place, nor any of them at the ends of a text.  Blanks have no meaning, and a
text may be stripped before it is evaluated or not.

**Results.**
* `evaluate_eq_of_meaningful`: an evaluation sees the characters with a meaning, after the implied
  products are written.
* `evaluate_of_alike`: it does not see which ignored character stands in a place.
* `evaluate_of_ignored`: a text of ignored characters has no value.
* `evaluate_strip`: blanks at the ends are not seen.
* `meaningful_insertProducts_iff`: ignored characters may be taken out before the implied products are
  written or after, exactly where none of them divide such a product.
* `evaluate_meaningful`: then an evaluation does not see any of them.
-/

namespace Reckoner

namespace Expression

variable {p : Precision}
variable {cs ds : List Char}

/-- A product is implied between characters with a meaning only. -/
theorem isMeaningful_of_impliesProduct
    {c d : Char}
    (h : impliesProduct c d = true) :
    isMeaningful c = true ∧ isMeaningful d = true := by
  simp only [impliesProduct, Bool.or_eq_true, Bool.and_eq_true, beq_iff_eq] at h
  rcases h with ⟨hc, rfl⟩ | ⟨rfl, hd | rfl⟩
  · exact ⟨by simp [isMeaningful, Conversion.isOperandChar, hc], by decide⟩
  · exact ⟨by decide, by simp [isMeaningful, Conversion.isOperandChar, hd]⟩
  · exact ⟨by decide, by decide⟩

theorem impliesProduct_of_ignored_left
    {c : Char}
    (h : isMeaningful c = false)
    (d : Char) :
    impliesProduct c d = false := by
  cases hcd : impliesProduct c d with
  | false =>
      rfl
  | true =>
      rw [(isMeaningful_of_impliesProduct hcd).1] at h
      cases h

theorem impliesProduct_of_ignored_right
    (c : Char)
    {d : Char}
    (h : isMeaningful d = false) :
    impliesProduct c d = false := by
  cases hcd : impliesProduct c d with
  | false =>
      rfl
  | true =>
      rw [(isMeaningful_of_impliesProduct hcd).2] at h
      cases h

/-- An evaluation sees the characters with a meaning, after the implied products are written. -/
theorem evaluate_eq_of_meaningful
    (h : meaningful (insertProducts cs) = meaningful (insertProducts ds)) :
    evaluate p cs = evaluate p ds := by
  have hpostfix : toPostfix (insertProducts cs) = toPostfix (insertProducts ds) := by
    rw [← toPostfix_meaningful (insertProducts cs), h, toPostfix_meaningful]
  rw [evaluate, evaluate, hpostfix]

section Alike

/-- Whether two characters are the same or both without a meaning. -/
def Alike (c d : Char) : Prop :=
  c = d ∨ (isMeaningful c = false ∧ isMeaningful d = false)

theorem impliesProduct_of_alike
    {c c' d d' : Char}
    (hc : Alike c c')
    (hd : Alike d d') :
    impliesProduct c d = impliesProduct c' d' := by
  rcases hc with rfl | ⟨hc, hc'⟩
  · rcases hd with rfl | ⟨hd, hd'⟩
    · rfl
    · rw [impliesProduct_of_ignored_right c hd, impliesProduct_of_ignored_right c hd']
  · rw [impliesProduct_of_ignored_left hc, impliesProduct_of_ignored_left hc']

/-- The scan that writes implied products goes alike over texts that are alike. -/
theorem meaningful_insertProductsAfter_of_alike
    {left left' : Char}
    (hleft : Alike left left')
    (h : List.Forall₂ Alike cs ds) :
    meaningful (insertProductsAfter left cs) = meaningful (insertProductsAfter left' ds) := by
  induction h generalizing left left' with
  | nil =>
      rfl
  | @cons c d cs ds hcd _ ih =>
      have hhead (rest rest' : List Char) (hrest : meaningful rest = meaningful rest') :
          meaningful (c :: rest) = meaningful (d :: rest') := by
        rcases hcd with rfl | ⟨hc, hd⟩
        · simp only [meaningful, List.filter_cons] at hrest ⊢
          rw [hrest]
        · simpa [meaningful, hc, hd] using hrest
      rw [insertProductsAfter, insertProductsAfter, impliesProduct_of_alike hleft hcd]
      split
      · have := hhead _ _ (ih hcd)
        simp only [meaningful, List.filter_cons] at this ⊢
        rw [this]
      · exact hhead _ _ (ih hcd)

/-- An evaluation does not see which ignored character stands in a place. -/
theorem evaluate_of_alike
    (h : List.Forall₂ Alike cs ds) :
    evaluate p cs = evaluate p ds :=
  evaluate_eq_of_meaningful (meaningful_insertProductsAfter_of_alike (.inl rfl) h)

end Alike

section Ends

/-- Nothing is written beside ignored characters. -/
theorem insertProductsAfter_of_ignored
    (left : Char)
    (h : ∀ c ∈ cs, isMeaningful c = false) :
    insertProductsAfter left cs = cs := by
  induction cs generalizing left with
  | nil =>
      rfl
  | cons c cs ih =>
      rw [insertProductsAfter, impliesProduct_of_ignored_right left (h c List.mem_cons_self)]
      rw [ih c fun d hd => h d (List.mem_cons_of_mem c hd)]
      rfl

theorem meaningful_of_ignored
    (h : ∀ c ∈ cs, isMeaningful c = false) :
    meaningful cs = [] :=
  List.filter_eq_nil_iff.mpr fun c hc => by simp [h c hc]

/-- An evaluation does not see ignored characters at the ends of a text. -/
theorem evaluate_between_ignored
    {before after : List Char}
    (hbefore : ∀ c ∈ before, isMeaningful c = false)
    (hafter : ∀ c ∈ after, isMeaningful c = false) :
    evaluate p (before ++ cs ++ after) = evaluate p cs := by
  have hstart : ∀ c, impliesProduct (before.getLastD ' ') c = false := by
    refine impliesProduct_of_ignored_left ?_
    rcases List.mem_cons.mp (List.getLastD_mem_cons (l := before) (a := ' ')) with hlast | hlast
    · rw [hlast]
      decide
    · exact hbefore _ hlast
  apply evaluate_eq_of_meaningful
  rw [insertProducts, insertProductsAfter_append, insertProductsAfter_append,
    insertProductsAfter_of_ignored _ hbefore, insertProductsAfter_of_ignored _ hafter,
    insertProductsAfter_of_forall hstart]
  unfold meaningful
  rw [List.filter_append, List.filter_append]
  rw [← meaningful, ← meaningful, ← meaningful, meaningful_of_ignored hbefore,
    meaningful_of_ignored hafter, List.nil_append, List.append_nil]

/-- A text of ignored characters has no value. -/
theorem evaluate_of_ignored
    (h : ∀ c ∈ cs, isMeaningful c = false) :
    (evaluate p cs).result = .error .noValue := by
  have hempty : evaluate p cs = evaluate p [] := by
    apply evaluate_eq_of_meaningful
    rw [insertProducts, insertProductsAfter_of_ignored ' ' h, meaningful_of_ignored h]
    rfl
  rw [hempty]
  rfl

end Ends

section Blanks

/-- A blank has no meaning. -/
theorem isMeaningful_of_isBlank
    {c : Char}
    (h : Text.isBlank c = true) :
    isMeaningful c = false := by
  have hne (d : Char) (hd : Text.isBlank d = false) : c ≠ d := by
    rintro rfl
    rw [h] at hd
    cases hd
  have hdigit : c.isDigit = false := by
    cases hc : c.isDigit with
    | false =>
        rfl
    | true =>
        obtain ⟨low, high⟩ : 48 ≤ c.toNat ∧ c.toNat ≤ 57 := by
          simpa [Char.isDigit, UInt32.le_iff_toNat_le] using hc
        simp [Text.isBlank, Text.singleBlanks] at h
        omega
  have hoperator : Operator.ofChar? c = none := by
    cases hop : Operator.ofChar? c with
    | none =>
        rfl
    | some op =>
        refine absurd (Operator.symbol_of_ofChar? hop).symm (hne op.symbol ?_)
        cases op <;> decide
  simp [isMeaningful, Conversion.isOperandChar, hdigit, hoperator, hne '.' (by decide),
    hne '(' (by decide), hne ')' (by decide)]

/-- A text may be stripped before it is evaluated or not. -/
theorem evaluate_strip
    (p : Precision)
    (cs : List Char) :
    evaluate p (Text.strip cs) = evaluate p cs := by
  obtain ⟨before, after, hcs, hbefore, hafter⟩ := Text.exists_append_strip cs
  conv_rhs =>
    rw [hcs]
  exact (evaluate_between_ignored (fun c hc => isMeaningful_of_isBlank (hbefore c hc))
    (fun c hc => isMeaningful_of_isBlank (hafter c hc))).symm

theorem calculate_strip
    (p : Precision)
    (cs : List Char) :
    calculate p (Text.strip cs) = calculate p cs := by
  rw [calculate, calculate, evaluate_strip]

end Blanks

section Removal

/-- Whether no product is implied across a run of ignored characters. -/
def Undivided (cs : List Char) : Prop :=
  ∀ before run after : List Char,
    cs = before ++ run ++ after →
      run ≠ [] →
        (∀ c ∈ run, isMeaningful c = false) →
          ¬ImpliedBetween before after

/-- What has been read ends in ignored characters, and the last one before them is what is left of it
at its end when they are taken out. -/
theorem exists_ignored_end
    (seen : List Char) :
    ∃ before run : List Char,
      seen = before ++ run ∧
      (∀ c ∈ run, isMeaningful c = false) ∧
      (meaningful seen).getLast? = before.getLast? := by
  induction seen using List.reverseRecOn with
  | nil =>
      exact ⟨[], [], rfl, by simp, rfl⟩
  | append_singleton seen c ih =>
      cases hc : isMeaningful c with
      | true =>
          exact ⟨seen ++ [c], [], by simp, by simp, by simp [meaningful, hc]⟩
      | false =>
          obtain ⟨before, run, rfl, hrun, hlast⟩ := ih
          refine ⟨before, run ++ [c], by simp, ?_, ?_⟩
          · intro d hd
            rcases List.mem_append.mp hd with hd | hd
            · exact hrun d hd
            · rwa [List.mem_singleton.mp hd]
          · rw [← hlast]
            simp [meaningful, hc]

/-- Whether the scan for implied products sees before a character what it would see without the ignored
characters that it has read. -/
def SeesMeaningful (seen : List Char) (c : Char) : Prop :=
  impliesProduct (seen.getLastD ' ') c = impliesProduct ((meaningful seen).getLastD ' ') c

/-- No product is divided exactly where the scan sees no difference at any character with a meaning. -/
theorem undivided_iff :
    Undivided cs ↔
      ∀ seen c rest,
        cs = seen ++ c :: rest → isMeaningful c = true → SeesMeaningful seen c := by
  constructor
  · intro h seen c rest hcs hc
    obtain ⟨before, run, rfl, hrun, hlast⟩ := exists_ignored_end seen
    rw [SeesMeaningful, List.getLastD_eq_getLast?, List.getLastD_eq_getLast?, hlast]
    obtain rfl | ⟨run, d, rfl⟩ := List.eq_nil_or_concat' run
    · rw [List.append_nil]
    -- the scan sees an ignored character here, and no product is implied across it
    · have hd : isMeaningful d = false := hrun d (by simp)
      have hnone : ¬ImpliedBetween before (c :: rest) :=
        h before (run ++ [d]) (c :: rest) hcs (by simp) hrun
      rw [← List.append_assoc, List.getLast?_concat, Option.getD_some,
        impliesProduct_of_ignored_left hd, eq_comm, Bool.eq_false_iff]
      intro himplied
      cases hbefore : before.getLast? with
      | none =>
          rw [hbefore] at himplied
          simp [impliesProduct] at himplied
      | some a =>
          rw [hbefore] at himplied
          exact hnone (impliedBetween_iff.mpr ⟨a, c, hbefore, rfl, himplied⟩)
  · intro h before run after hcs hrun hignored hgap
    obtain ⟨a, b, ha, hb, hab⟩ := impliedBetween_iff.mp hgap
    obtain ⟨rest, rfl⟩ := List.head?_eq_some_iff.mp hb
    obtain ⟨haMeaningful, hbMeaningful⟩ := isMeaningful_of_impliesProduct hab
    have hsees := h (before ++ run) b rest hcs hbMeaningful
    obtain ⟨before, rfl⟩ := List.getLast?_eq_some_iff.mp ha
    have hlast : (meaningful (before ++ [a] ++ run)).getLastD ' ' = a := by
      have hnil := meaningful_of_ignored hignored
      unfold meaningful at hnil ⊢
      simp [hnil, haMeaningful]
    have hlastRun : isMeaningful ((before ++ [a] ++ run).getLastD ' ') = false := by
      obtain ⟨run, d, rfl⟩ := (List.eq_nil_or_concat' run).resolve_left hrun
      rw [← List.append_assoc, List.getLastD_concat]
      exact hignored d (by simp)
    rw [SeesMeaningful, hlast, hab, impliesProduct_of_ignored_left hlastRun] at hsees
    cases hsees

/-- The scan over what follows the characters that it has read, with the ignored ones taken out before
it or after. -/
theorem meaningful_insertProductsAfter_iff
    (seen cs : List Char) :
    meaningful (insertProductsAfter (seen.getLastD ' ') cs) =
        insertProductsAfter ((meaningful seen).getLastD ' ') (meaningful cs) ↔
      ∀ before c after,
        cs = before ++ c :: after → isMeaningful c = true → SeesMeaningful (seen ++ before) c := by
  induction cs generalizing seen with
  | nil =>
      simp [insertProductsAfter, meaningful]
  | cons c cs ih =>
      rw [Text.forall_places_cons, List.append_nil]
      specialize ih (seen ++ [c])
      rw [List.getLastD_concat] at ih
      simp only [List.append_assoc, List.singleton_append] at ih
      rw [← ih, insertProductsAfter]
      cases hc : isMeaningful c with
      | false =>
          rw [impliesProduct_of_ignored_right _ hc]
          simp [meaningful, hc]
      | true =>
          have hstar : isMeaningful '*' = true := by
            decide
          have hread : (meaningful (seen ++ [c])).getLastD ' ' = c := by
            simp [meaningful, hc]
          rw [hread]
          unfold SeesMeaningful meaningful
          rw [List.filter_cons_of_pos hc, insertProductsAfter]
          -- where one scan writes a star and the other does not, they differ right there
          cases hl : impliesProduct (seen.getLastD ' ') c <;>
            cases hm : impliesProduct ((seen.filter isMeaningful).getLastD ' ') c
          · simp [hc]
          · simp [hc, ne_star_of_impliesProduct hm]
          · simp [hc, hstar, (ne_star_of_impliesProduct hl).symm]
          · simp [hc, hstar]

/-- Ignored characters may be taken out before the implied products are written or after, exactly where
none of them divide such a product. -/
theorem meaningful_insertProducts_iff :
    meaningful (insertProducts cs) = insertProducts (meaningful cs) ↔ Undivided cs := by
  rw [undivided_iff]
  exact meaningful_insertProductsAfter_iff [] cs

instance : DecidablePred Undivided :=
  fun _ => decidable_of_iff _ meaningful_insertProducts_iff

/-- Where ignored characters divide no implied product, an evaluation does not see any of them. -/
theorem evaluate_meaningful
    (h : Undivided cs)
    (p : Precision) :
    evaluate p (meaningful cs) = evaluate p cs := by
  apply evaluate_eq_of_meaningful
  rw [← meaningful_insertProducts_iff.mpr h]
  simp [meaningful]

/-- Ignored characters between digits, before a closing parenthesis, after an operator and at the ends, but
at none of the two places where a product is implied. -/
theorem evaluate_meaningful_scattered :
    Undivided " 1 2(3 €+\t4 )(0.5) x".toList ∧
    meaningful " 1 2(3 €+\t4 )(0.5) x".toList = "12(3+4)(0.5)".toList ∧
    evaluate {} "12(3+4)(0.5)".toList = evaluate {} " 1 2(3 €+\t4 )(0.5) x".toList := by
  have hundivided : Undivided " 1 2(3 €+\t4 )(0.5) x".toList := by
    decide
  have hmeaningful : meaningful " 1 2(3 €+\t4 )(0.5) x".toList = "12(3+4)(0.5)".toList := by
    decide
  have hevaluate := evaluate_meaningful hundivided {}
  rw [hmeaningful] at hevaluate
  exact ⟨hundivided, hmeaningful, hevaluate⟩

/-- A blank that divides a product. -/
example : ¬Undivided "1 (2)".toList := by
  decide

end Removal

end Expression
end Reckoner
