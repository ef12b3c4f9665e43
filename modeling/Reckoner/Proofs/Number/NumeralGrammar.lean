import Reckoner.Number.Numeral
import Mathlib.Data.List.TakeWhile
import Mathlib.Tactic.Common

/-!
# The grammar of numerals

A numeral is a run of digits, a run of digits with a point after it and any digits after the
point, or a point with a run of digits after it.  This grammar is stated here without the scan that
`Numeral.isPlain` makes, and the two are shown to agree on every text.

**Results.**
* `isPlain_iff_isLiteral`: the scan accepts exactly the grammar.
* `isNumeral_iff_isLiteral`: so does the test for numerals, on texts without a line end.
-/

namespace Reckoner
namespace Numeral

/-- Digits and nothing else. -/
def Digits (cs : List Char) : Prop :=
  ∀ c ∈ cs, c.isDigit = true

/-- The texts of numerals: `12`, `1.5`, `1.` and `.5`. -/
inductive IsLiteral : List Char → Prop
  | integer
      {ds : List Char}
      (nonempty : ds ≠ [])
      (digits : Digits ds) :
      IsLiteral ds
  | pointed
      {ds es : List Char}
      (nonempty : ds ≠ [])
      (digits : Digits ds)
      (places : Digits es) :
      IsLiteral (ds ++ '.' :: es)
  | fraction
      {es : List Char}
      (nonempty : es ≠ [])
      (places : Digits es) :
      IsLiteral ('.' :: es)

theorem ne_point_of_isDigit
    {c : Char}
    (h : c.isDigit = true) :
    c ≠ '.' := by
  rintro rfl
  exact absurd h (by decide)

section Parts

variable {ds es : List Char}

@[simp] theorem whole_point
    (es : List Char) :
    whole ('.' :: es) = [] := by
  simp [whole]

@[simp] theorem fraction_point
    (es : List Char) :
    fraction ('.' :: es) = es := by
  simp [fraction]

/-- Digits before a point are the whole part. -/
theorem whole_append_point
    (hds : Digits ds)
    (es : List Char) :
    whole (ds ++ '.' :: es) = ds := by
  induction ds with
  | nil =>
      exact whole_point es
  | cons d ds ih =>
      have hd : d ≠ '.' :=
        ne_point_of_isDigit (hds d (by simp))
      have hrest : Digits ds :=
        fun c hc => hds c (by simp [hc])
      simpa [whole, hd] using ih hrest

/-- What follows the first point is the fraction. -/
theorem fraction_append_point
    (hds : Digits ds)
    (es : List Char) :
    fraction (ds ++ '.' :: es) = es := by
  induction ds with
  | nil =>
      exact fraction_point es
  | cons d ds ih =>
      have hd : d ≠ '.' :=
        ne_point_of_isDigit (hds d (by simp))
      have hrest : Digits ds :=
        fun c hc => hds c (by simp [hc])
      simpa [fraction, hd] using ih hrest

/-- Digits alone are all in the whole part. -/
theorem whole_of_digits
    (hds : Digits ds) :
    whole ds = ds := by
  unfold whole
  rw [List.takeWhile_eq_self_iff]
  intro c hc
  simpa using ne_point_of_isDigit (hds c hc)

/-- Digits alone have no fraction. -/
theorem fraction_of_digits
    (hds : Digits ds) :
    fraction ds = [] := by
  have hnone : ds.dropWhile (· != '.') = [] := by
    rw [List.dropWhile_eq_nil_iff]
    intro c hc
    simpa using ne_point_of_isDigit (hds c hc)
  simp [fraction, hnone]

end Parts

/-- A text is its whole part, and if it has a point, the point and its fraction. -/
theorem eq_whole_or_point
    (cs : List Char) :
    (cs = whole cs ∧ fraction cs = [])
      ∨
    cs = whole cs ++ '.' :: fraction cs := by
  have hsplit : whole cs ++ cs.dropWhile (· != '.') = cs :=
    List.takeWhile_append_dropWhile
  cases hrest : cs.dropWhile (· != '.') with
  | nil =>
      left
      rw [hrest, List.append_nil] at hsplit
      exact ⟨hsplit.symm, by simp [fraction, hrest]⟩
  | cons c rest =>
      right
      -- The scan stops at a point only.
      have hc : c = '.' := by
        have hhead := List.head?_dropWhile_not (· != '.') cs
        rw [hrest] at hhead
        simpa using hhead
      have hfraction : fraction cs = rest := by
        simp [fraction, hrest]
      rw [hfraction, ← hc, ← hrest]
      exact hsplit.symm

/-- The scan accepts exactly the texts of the grammar. -/
theorem isPlain_iff_isLiteral
    (cs : List Char) :
    isPlain cs = true ↔ IsLiteral cs := by
  constructor
  · intro h
    simp only [isPlain, Bool.and_eq_true, List.all_eq_true, Bool.not_eq_true',
      List.isEmpty_eq_false_iff] at h
    obtain ⟨⟨hwhole, hfraction⟩, hsome⟩ := h
    rcases eq_whole_or_point cs with ⟨hcs, hnone⟩ | hcs
    · rw [hcs]
      refine IsLiteral.integer ?_ hwhole
      simpa [hnone] using hsome
    · rw [hcs]
      by_cases hnil : whole cs = []
      · rw [hnil, List.nil_append] at hsome ⊢
        exact IsLiteral.fraction hsome hfraction
      · exact IsLiteral.pointed hnil hwhole hfraction
  · intro h
    cases h with
    | integer nonempty digits =>
        simpa [isPlain, whole_of_digits digits, fraction_of_digits digits, nonempty, Digits]
          using digits
    | pointed nonempty digits places =>
        simp only [isPlain, whole_append_point digits, fraction_append_point digits]
        simpa [nonempty] using ⟨digits, places⟩
    | fraction nonempty places =>
        simpa [isPlain, nonempty, Digits] using places

/-- Only a text that ends with a line end loses one. -/
theorem dropLineEnd_of_not_mem
    {cs : List Char}
    (h : '\n' ∉ cs) :
    dropLineEnd cs = cs := by
  have hlast : cs.getLast? ≠ some '\n' :=
    fun he => h (List.mem_of_getLast? he)
  simp [dropLineEnd, hlast]

/-- On texts without a line end, the numerals are the texts of the grammar. -/
theorem isNumeral_iff_isLiteral
    {cs : List Char}
    (h : '\n' ∉ cs) :
    isNumeral cs = true ↔ IsLiteral cs := by
  rw [isNumeral, dropLineEnd_of_not_mem h, isPlain_iff_isLiteral]

/-- A numeral of the grammar has no line end. -/
theorem lineEnd_not_mem
    {cs : List Char}
    (h : IsLiteral cs) :
    '\n' ∉ cs := by
  have hline : ∀ {ds : List Char}, Digits ds → '\n' ∉ ds :=
    fun hds hmem => absurd (hds '\n' hmem) (by decide)
  cases h with
  | integer _ digits =>
      exact hline digits
  | pointed _ digits places =>
      simpa using ⟨hline digits, hline places⟩
  | fraction _ places =>
      simpa using hline places

/-- So every text of the grammar is a numeral. -/
theorem isNumeral_of_isLiteral
    {cs : List Char}
    (h : IsLiteral cs) :
    isNumeral cs = true :=
  (isNumeral_iff_isLiteral (lineEnd_not_mem h)).mpr h

end Numeral
end Reckoner
