import Mathlib.Data.List.Basic
import Mathlib.Data.List.TakeWhile
import Mathlib.Tactic.Common
import Reckoner.Proofs.Text.LetterTables
import Reckoner.Proofs.Text.Stripping

/-!
# Recasing

The lower case of a text is its own lower case, and neither case moves the blanks around a text.  The
upper case of a text may have another lower case than the text: some letters do not come back from
their upper case, and a small sigma comes back in the form that its place asks for.

**Results.**
* `lower_lower`: a lower case has no other lower case.
* `strip_lower`, `strip_upper`: a text may be stripped before or after it is recased.
* `lower_upper_eq_iff`: the texts whose upper case has the lower case of the text.
* `keepsCase_of_lt`: texts of the first 128 characters are among them.
-/

namespace Reckoner
namespace Text

/-! ### The search for a cased letter -/

@[simp] theorem meetsCased_nil :
    meetsCased [] = false := by
  rfl

theorem meetsCased_cons
    (c : Char)
    (cs : List Char) :
    meetsCased (c :: cs) = if isCaseIgnorable c = true then meetsCased cs else isCased c := by
  cases h : isCaseIgnorable c <;> simp [meetsCased, h]

/-- A search ends at blanks as it ends with the text. -/
theorem meetsCased_append_blanks
    {blanks : List Char}
    (h : ∀ c ∈ blanks, isBlank c = true)
    (cs : List Char) :
    meetsCased (cs ++ blanks) = meetsCased cs := by
  induction cs with
  | nil =>
      cases blanks with
      | nil =>
          rfl
      | cons c blanks =>
          obtain ⟨hcased, hignorable⟩ := of_isBlank (h c List.mem_cons_self)
          simp [meetsCased_cons, hcased, hignorable]
  | cons c cs ih =>
      rw [List.cons_append, meetsCased_cons, meetsCased_cons, ih]

/-- The search takes a letter as it takes another with the same case. -/
theorem meetsCased_flatMap
    {f : Char → List Char}
    {cs : List Char}
    (h : ∀ c ∈ cs, ∃ d : Char,
      f c = [d] ∧ isCased d = isCased c ∧ isCaseIgnorable d = isCaseIgnorable c) :
    meetsCased (cs.flatMap f) = meetsCased cs := by
  induction cs with
  | nil =>
      rfl
  | cons c cs ih =>
      obtain ⟨d, hf, hcased, hignorable⟩ := h c List.mem_cons_self
      rw [List.flatMap_cons, hf, List.singleton_append, meetsCased_cons, meetsCased_cons, hcased,
        hignorable, ih fun e he => h e (List.mem_cons_of_mem c he)]

/-! ### Lower case piece by piece -/

/-- Lower case of a text between the text `before` it (nearest first) and `after` it. -/
def lowerBetween (before : List Char) : List Char → List Char → List Char
  | [], _ => []
  | c :: cs, after => lowerLetter before c (cs ++ after) ++ lowerBetween (c :: before) cs after

theorem lowerAfter_append
    (before cs after : List Char) :
    lowerAfter before (cs ++ after) =
      lowerBetween before cs after ++ lowerAfter (cs.reverse ++ before) after := by
  induction cs generalizing before with
  | nil =>
      rfl
  | cons c cs ih =>
      rw [List.cons_append, lowerAfter, ih, lowerBetween]
      simp

theorem lowerBetween_singleton
    (before : List Char)
    (c : Char)
    (after : List Char) :
    lowerBetween before [c] after = lowerLetter before c after := by
  simp [lowerBetween]

theorem lowerBetween_nil
    (before cs : List Char) :
    lowerBetween before cs [] = lowerAfter before cs := by
  induction cs generalizing before with
  | nil =>
      rfl
  | cons c cs ih =>
      rw [lowerBetween, lowerAfter, ih, List.append_nil]

theorem lower_eq_lowerBetween
    (cs : List Char) :
    lower cs = lowerBetween [] cs [] := by
  rw [lowerBetween_nil, lower]

theorem lower_singleton
    (c : Char) :
    lower [c] = lowerLetter [] c [] := by
  rw [lower_eq_lowerBetween, lowerBetween_singleton]

@[simp] theorem upper_nil :
    upper [] = [] := by
  rfl

theorem upper_cons
    (c : Char)
    (cs : List Char) :
    upper (c :: cs) = upperLetter c ++ upper cs := by
  rfl

theorem upper_append
    (cs ds : List Char) :
    upper (cs ++ ds) = upper cs ++ upper ds := by
  exact List.flatMap_append

theorem upper_singleton
    (c : Char) :
    upper [c] = upperLetter c := by
  simp [upper]

/-- Without a capital sigma a text has the same lower case wherever it stands. -/
theorem lowerBetween_of_sigma_not_mem
    {cs : List Char}
    (h : 'Σ' ∉ cs)
    (before after : List Char) :
    lowerBetween before cs after = lower cs := by
  have hsame (before before' : List Char) :
      lowerBetween before cs after = lowerBetween before' cs [] := by
    induction cs generalizing before before' with
    | nil =>
        rfl
    | cons c cs ih =>
        obtain ⟨hc, hcs⟩ := not_or.mp (List.mem_cons.not.mp h)
        rw [lowerBetween, lowerBetween, lowerLetter_of_ne_sigma (Ne.symm hc),
          lowerLetter_of_ne_sigma (Ne.symm hc), ih hcs (c :: before) (c :: before')]
  rw [lower_eq_lowerBetween, hsame before []]

/-! ### Lower case of a lower case -/

theorem isLowerCase_of_mem_lowerAfter
    {before cs : List Char}
    {d : Char}
    (hd : d ∈ lowerAfter before cs) :
    IsLowerCase d := by
  induction cs generalizing before with
  | nil =>
      simp [lowerAfter] at hd
  | cons c cs ih =>
      rcases List.mem_append.mp hd with hd | hd
      · exact isLowerCase_of_mem_lowerLetter hd
      · exact ih hd

theorem lowerAfter_of_isLowerCase
    {cs : List Char}
    (h : ∀ c ∈ cs, IsLowerCase c)
    (before : List Char) :
    lowerAfter before cs = cs := by
  induction cs generalizing before with
  | nil =>
      rfl
  | cons c cs ih =>
      rw [lowerAfter, lowerLetter_of_isLowerCase (h c List.mem_cons_self),
        ih fun d hd => h d (List.mem_cons_of_mem c hd), List.singleton_append]

/-- A lower case has no other lower case. -/
theorem lower_lower
    (cs : List Char) :
    lower (lower cs) = lower cs := by
  exact lowerAfter_of_isLowerCase (fun _ hd => isLowerCase_of_mem_lowerAfter hd) []

/-! ### Blanks around a text -/

theorem lowerLetter_append_blanks
    {blanks blanks' : List Char}
    (h : ∀ c ∈ blanks, isBlank c = true)
    (h' : ∀ c ∈ blanks', isBlank c = true)
    (before : List Char)
    (c : Char)
    (after : List Char) :
    lowerLetter (before ++ blanks) c (after ++ blanks') = lowerLetter before c after := by
  unfold lowerLetter
  rw [meetsCased_append_blanks h, meetsCased_append_blanks h']

/-- Blanks around a text do not matter to its lower case. -/
theorem lowerBetween_blanks
    {blanks blanks' : List Char}
    (h : ∀ c ∈ blanks, isBlank c = true)
    (h' : ∀ c ∈ blanks', isBlank c = true)
    (before cs : List Char) :
    lowerBetween (before ++ blanks) cs blanks' = lowerAfter before cs := by
  induction cs generalizing before with
  | nil =>
      rfl
  | cons c cs ih =>
      rw [lowerBetween, lowerAfter, lowerLetter_append_blanks h h', ← List.cons_append, ih]

theorem lowerBetween_of_isBlank
    {blanks : List Char}
    (h : ∀ c ∈ blanks, isBlank c = true)
    (before after : List Char) :
    lowerBetween before blanks after = blanks := by
  induction blanks generalizing before with
  | nil =>
      rfl
  | cons c blanks ih =>
      rw [lowerBetween, (lowerLetter_blank _ c _).1 (h c List.mem_cons_self),
        ih fun d hd => h d (List.mem_cons_of_mem c hd), List.singleton_append]

theorem lower_between_blanks
    (before cs after : List Char)
    (hbefore : ∀ c ∈ before, isBlank c = true)
    (hafter : ∀ c ∈ after, isBlank c = true) :
    lower (before ++ cs ++ after) = before ++ lower cs ++ after := by
  have hreverse : ∀ c ∈ before.reverse, isBlank c = true := fun c hc =>
    hbefore c (List.mem_reverse.mp hc)
  rw [lower, List.append_assoc, lowerAfter_append, lowerBetween_of_isBlank hbefore,
    lowerAfter_append, List.append_nil, ← List.nil_append before.reverse,
    lowerBetween_blanks hreverse hafter, ← lowerBetween_nil _ after,
    lowerBetween_of_isBlank hafter, ← lower, List.append_assoc]

theorem upper_of_isBlank
    {blanks : List Char}
    (h : ∀ c ∈ blanks, isBlank c = true) :
    upper blanks = blanks := by
  induction blanks with
  | nil =>
      rfl
  | cons c blanks ih =>
      rw [upper_cons, (upperLetter_blank c).1 (h c List.mem_cons_self),
        ih fun d hd => h d (List.mem_cons_of_mem c hd), List.singleton_append]

theorem upper_between_blanks
    (before cs after : List Char)
    (hbefore : ∀ c ∈ before, isBlank c = true)
    (hafter : ∀ c ∈ after, isBlank c = true) :
    upper (before ++ cs ++ after) = before ++ upper cs ++ after := by
  rw [upper_append, upper_append, upper_of_isBlank hbefore, upper_of_isBlank hafter]

theorem filled_lowerLetter
    {c : Char}
    (h : isBlank c = false)
    (before after : List Char) :
    Filled (lowerLetter before c after) :=
  ⟨lowerLetter_ne_nil before c after, (lowerLetter_blank before c after).2 h⟩

theorem filled_upperLetter
    {c : Char}
    (h : isBlank c = false) :
    Filled (upperLetter c) :=
  ⟨upperLetter_ne_nil c, (upperLetter_blank c).2 h⟩

theorem lower_concat
    (cs : List Char)
    (c : Char) :
    lower (cs ++ [c]) = lowerBetween [] cs [c] ++ lowerLetter cs.reverse c [] := by
  rw [lower, lowerAfter_append, List.append_nil, ← lowerBetween_nil cs.reverse,
    lowerBetween_singleton]

theorem upper_concat
    (cs : List Char)
    (c : Char) :
    upper (cs ++ [c]) = upper cs ++ upperLetter c := by
  rw [upper_append, upper_singleton]

/-- A text may be stripped before or after it is set in lower case. -/
theorem strip_lower
    (cs : List Char) :
    strip (lower cs) = lower (strip cs) := by
  refine strip_rewritten rfl (fun c cs hc => ?_) (fun cs c hc => ?_) lower_between_blanks cs
  · exact ⟨_, _, rfl, filled_lowerLetter hc [] cs⟩
  · exact ⟨_, _, lower_concat cs c, filled_lowerLetter hc cs.reverse []⟩

/-- A text may be stripped before or after it is set in upper case. -/
theorem strip_upper
    (cs : List Char) :
    strip (upper cs) = upper (strip cs) := by
  refine strip_rewritten rfl (fun c cs hc => ?_) (fun cs c hc => ?_) upper_between_blanks cs
  · exact ⟨_, _, upper_cons c cs, filled_upperLetter hc⟩
  · exact ⟨_, _, upper_concat cs c, filled_upperLetter hc⟩

/-! ### Lower case of an upper case -/

/-- The texts whose upper case has the lower case of the text.  Every letter, seen alone, comes back from
its upper case as its lower case; and a small sigma has the form that a capital sigma would take in
its place, the final one after a cased letter with none to follow. -/
structure KeepsCase (cs : List Char) : Prop where
  letters : ∀ c ∈ cs, c ≠ 'ς' → lower (upper [c]) = lower [c]
  sigmas : ∀ (before : List Char) (c : Char) (after : List Char), cs = before ++ c :: after →
    c = 'σ' ∨ c = 'ς' → (c = 'ς' ↔ meetsCased before.reverse = true ∧ meetsCased after = false)

theorem length_le_lowerBetween
    (before cs after : List Char) :
    cs.length ≤ (lowerBetween before cs after).length := by
  induction cs generalizing before with
  | nil =>
      exact Nat.le_refl 0
  | cons c cs ih =>
      have hletter := List.length_pos_iff.mpr (lowerLetter_ne_nil before c (cs ++ after))
      have hrest := ih (c :: before)
      rw [lowerBetween, List.length_append, List.length_cons]
      omega

/-- The upper case of a letter has no shorter lower case than the letter. -/
theorem length_lowerLetter_le
    (before before' after after' : List Char)
    (c : Char) :
    (lowerLetter before c after).length ≤
      (lowerBetween before' (upperLetter c) after').length := by
  rw [length_lowerLetter]
  split
  · next hc =>
      obtain rfl : c = 'İ' := Char.toNat_inj.mp hc
      have hupper : upperLetter 'İ' = ['İ'] := by decide +kernel
      rw [hupper, lowerBetween_singleton, length_lowerLetter]
      exact Nat.le_refl 2
  · have hletter := List.length_pos_iff.mpr (upperLetter_ne_nil c)
    have hbetween := length_le_lowerBetween before' (upperLetter c) after'
    omega

theorem length_lowerAfter_le
    (before before' cs : List Char) :
    (lowerAfter before cs).length ≤ (lowerAfter before' (upper cs)).length := by
  induction cs generalizing before before' with
  | nil =>
      exact Nat.le_refl 0
  | cons c cs ih =>
      have hletter := length_lowerLetter_le before before' cs (upper cs) c
      have hrest := ih (c :: before) ((upperLetter c).reverse ++ before')
      rw [lowerAfter, upper_cons, lowerAfter_append, List.length_append, List.length_append]
      omega

/-- The upper case of a text has the lower case of the text exactly when this is so at each place: no
letter gets shorter, so that none can make up for another. -/
theorem lowerAfter_upper_eq_iff
    (before before' cs : List Char) :
    lowerAfter before' (upper cs) = lowerAfter before cs ↔
      ∀ (left : List Char) (c : Char) (right : List Char), cs = left ++ c :: right →
        lowerBetween ((upper left).reverse ++ before') (upperLetter c) (upper right) =
          lowerLetter (left.reverse ++ before) c right := by
  induction cs generalizing before before' with
  | nil =>
      simp [upper, lowerAfter]
  | cons c cs ih =>
      have hletter := length_lowerLetter_le before before' cs (upper cs) c
      have hrest := length_lowerAfter_le (c :: before) ((upperLetter c).reverse ++ before') cs
      rw [forall_places_cons, lowerAfter, upper_cons, lowerAfter_append]
      simp only [upper_nil, upper_cons, List.reverse_append, List.reverse_nil, List.reverse_cons,
        List.append_assoc, List.nil_append, List.singleton_append]
      rw [← ih (c :: before) ((upperLetter c).reverse ++ before')]
      constructor
      · intro h
        have hlength := congrArg List.length h
        rw [List.length_append, List.length_append] at hlength
        exact List.append_inj h (by omega)
      · rintro ⟨hfirst, hothers⟩
        rw [hothers]
        exact congrArg (· ++ _) hfirst

/-- A letter that comes back from its upper case is met in the search for a cased letter as its upper
case is. -/
theorem exists_upperLetter_eq
    {c : Char}
    (h : c ≠ 'ς' → lower (upper [c]) = lower [c]) :
    ∃ d : Char,
      upperLetter c = [d] ∧ isCased d = isCased c ∧ isCaseIgnorable d = isCaseIgnorable c := by
  by_cases hdotted : c = 'İ'
  · subst hdotted
    exact ⟨'İ', by decide +kernel, rfl, rfl⟩
  · by_cases hfinal : c = 'ς'
    · subst hfinal
      exact ⟨'Σ', by decide +kernel, by decide +kernel, by decide +kernel⟩
    · have hback := h hfinal
      refine upperLetter_cased ?_ ?_
      · have hupper := length_le_lowerBetween [] (upperLetter c) []
        have hcode : c.toNat ≠ 0x130 := fun hcode => hdotted (Char.toNat_inj.mp hcode)
        rwa [← lower_eq_lowerBetween, ← upper_singleton, hback, lower_singleton, length_lowerLetter,
          if_neg hcode, upper_singleton] at hupper
      · intro hiota
        obtain rfl : c = Char.ofNat 0x345 := Char.toNat_inj.mp hiota
        revert hback
        decide +kernel

/-- Where every letter comes back from its upper case, the searches from a place of the text find the
same in the upper case, in both directions. -/
theorem meetsCased_upper_around
    {before after : List Char}
    {c : Char}
    (h : ∀ d ∈ before ++ c :: after, d ≠ 'ς' → lower (upper [d]) = lower [d]) :
    meetsCased (upper before).reverse = meetsCased before.reverse ∧
      meetsCased (upper after) = meetsCased after := by
  constructor
  · rw [upper, List.reverse_flatMap]
    refine meetsCased_flatMap fun d hd => ?_
    obtain ⟨e, hupper, hcased⟩ := exists_upperLetter_eq
      (h d (List.mem_append_left _ (List.mem_reverse.mp hd)))
    exact ⟨e, by simp [hupper], hcased⟩
  · refine meetsCased_flatMap fun d hd => exists_upperLetter_eq ?_
    exact h d (List.mem_append_right _ (List.mem_cons_of_mem c hd))

/-- A letter that is no sigma comes back from its upper case alike at every place. -/
theorem lowerBetween_upperLetter_of_not_sigma
    {c : Char}
    (hcapital : c ≠ 'Σ')
    (hsmall : ¬(c = 'σ' ∨ c = 'ς'))
    (before after : List Char) :
    lowerBetween before (upperLetter c) after = lower (upper [c]) := by
  rw [upper_singleton]
  refine lowerBetween_of_sigma_not_mem (fun hmem => ?_) before after
  exact hsmall ((eq_of_sigma_mem_upperLetter hmem).resolve_left hcapital)

theorem upperLetter_of_small_sigma
    {c : Char}
    (h : c = 'σ' ∨ c = 'ς') :
    upperLetter c = ['Σ'] ∧ IsLowerCase c := by
  rcases h with rfl | rfl <;> decide +kernel

/-- A small sigma comes back from its upper case in the form that its place asks for. -/
theorem lowerBetween_upperLetter_of_small_sigma
    {before after before' after' : List Char}
    (hbefore : meetsCased before' = meetsCased before)
    (hafter : meetsCased after' = meetsCased after)
    {c : Char}
    (hc : c = 'σ' ∨ c = 'ς') :
    lowerBetween before' (upperLetter c) after' = lowerLetter before c after ↔
      (c = 'ς' ↔ meetsCased before = true ∧ meetsCased after = false) := by
  obtain ⟨hupper, hself⟩ := upperLetter_of_small_sigma hc
  rw [hupper, lowerBetween_singleton, lowerLetter_sigma, lowerLetter_of_isLowerCase hself, hbefore,
    hafter]
  cases meetsCased before <;> cases meetsCased after <;> rcases hc with rfl | rfl <;> decide

/-- The upper case of a text has the lower case of the text exactly when its letters come back from their
upper case and its small sigmas have the forms that their places ask for. -/
theorem lower_upper_eq_iff
    {cs : List Char} :
    lower (upper cs) = lower cs ↔ KeepsCase cs := by
  have hplaces := lowerAfter_upper_eq_iff [] [] cs
  simp only [List.append_nil] at hplaces
  rw [lower, lower, hplaces]
  constructor
  · intro h
    have hletters : ∀ c ∈ cs, c ≠ 'ς' → lower (upper [c]) = lower [c] := by
      intro c hc hfinal
      obtain ⟨left, right, rfl⟩ := List.append_of_mem hc
      by_cases hsigma : c = 'Σ' ∨ c = 'σ'
      · rcases hsigma with rfl | rfl <;> decide +kernel
      · obtain ⟨hcapital, hsmall⟩ := not_or.mp hsigma
        have hplace := h left c right rfl
        rwa [lowerBetween_upperLetter_of_not_sigma hcapital (not_or.mpr ⟨hsmall, hfinal⟩),
          lowerLetter_of_ne_sigma hcapital] at hplace
    refine ⟨hletters, ?_⟩
    rintro left c right rfl hc
    obtain ⟨hleft, hright⟩ := meetsCased_upper_around hletters
    exact (lowerBetween_upperLetter_of_small_sigma hleft hright hc).mp (h left c right rfl)
  · rintro ⟨hletters, hsigmas⟩ left c right rfl
    obtain ⟨hleft, hright⟩ := meetsCased_upper_around hletters
    by_cases hsmall : c = 'σ' ∨ c = 'ς'
    · exact (lowerBetween_upperLetter_of_small_sigma hleft hright hsmall).mpr
        (hsigmas left c right rfl hsmall)
    · by_cases hcapital : c = 'Σ'
      · subst hcapital
        have hupper : upperLetter 'Σ' = ['Σ'] := by decide +kernel
        rw [hupper, lowerBetween_singleton, lowerLetter_sigma, lowerLetter_sigma, hleft, hright]
      · rw [lowerBetween_upperLetter_of_not_sigma hcapital hsmall, lowerLetter_of_ne_sigma hcapital]
        exact hletters c (by simp) fun hfinal => hsmall (.inr hfinal)

instance : DecidablePred KeepsCase := fun _ =>
  decidable_of_iff _ lower_upper_eq_iff

/-- Blanks around a text do not matter to whether it keeps its case. -/
theorem keepsCase_strip_iff
    {cs : List Char} :
    KeepsCase (strip cs) ↔ KeepsCase cs := by
  obtain ⟨before, after, hcs, hbefore, hafter⟩ := exists_append_strip cs
  have hlower : lower cs = before ++ lower (strip cs) ++ after := by
    rw [← lower_between_blanks _ _ _ hbefore hafter, ← hcs]
  have hupper : lower (upper cs) = before ++ lower (upper (strip cs)) ++ after := by
    rw [← lower_between_blanks _ _ _ hbefore hafter, ← upper_between_blanks _ _ _ hbefore hafter,
      ← hcs]
  rw [← lower_upper_eq_iff, ← lower_upper_eq_iff, hlower, hupper, List.append_left_inj,
    List.append_right_inj]

/-- A text of the first 128 characters keeps its case. -/
theorem keepsCase_of_lt
    {cs : List Char}
    (h : ∀ c ∈ cs, c.toNat < 0x80) :
    KeepsCase cs := by
  constructor
  · intro c hc _
    obtain ⟨hlt, hback⟩ := apply_letters_of_lt c.toNat (h c hc)
    have hcode := toNat_ofNat_of_isValidChar (.inl (Nat.lt_trans hlt (by decide)))
    rw [upper_singleton, upperLetter_of_lt (h c hc), lower_singleton, lower_singleton,
      lowerLetter_of_lt (h c hc), lowerLetter_of_lt (by rwa [hcode]), hcode, hback]
  · rintro before c after rfl hsmall
    have hlt := h c (by simp)
    rcases hsmall with rfl | rfl <;> exact absurd hlt (by decide)

end Text
end Reckoner
