import Mathlib.Data.List.TakeWhile
import Mathlib.Tactic.Common
import Reckoner.Text.Blank
import Reckoner.Text.LetterCase

/-!
# Letter tables

The tables of letter case are runs and ranges of code points, and what they say of every letter is
checked run by run and range by range.  A letter and its other case are characters and neither is blank.
A lower case is its own lower case.  Every letter that has an upper case stands for itself in the search
for a cased letter, as its upper case does, but for the combining iota.

**Results.**
* `apply_spec`: the other case that a regular table assigns to a character.
* `isLowerCase_of_mem_lowerLetter`: the lower case of a character has no other lower case.
* `lowerLetter_blank`, `upperLetter_blank`: a blank stays as it is, and no letter turns blank.
* `upperLetter_cased`: an upper case of one character is met as the character is.
* `eq_of_sigma_mem_upperLetter`: the characters whose upper case has a capital sigma.
-/

namespace Reckoner
namespace Text

/-! ### Ranges -/

theorem inRanges_iff
    {ranges : List (Nat × Nat)}
    {n : Nat} :
    inRanges ranges n = true ↔ ∃ r ∈ ranges, r.1 ≤ n ∧ n ≤ r.2 := by
  simp [inRanges]

/-- Whether no code point is in ranges of both lists. -/
def separate (ranges others : List (Nat × Nat)) : Bool :=
  ranges.all fun r => others.all fun t => Nat.blt r.2 t.1 || Nat.blt t.2 r.1

theorem not_inRanges_of_separate
    {ranges others : List (Nat × Nat)}
    (h : separate ranges others = true)
    {n : Nat}
    (hn : inRanges ranges n = true) :
    inRanges others n = false := by
  obtain ⟨r, hr, hlow, hhigh⟩ := inRanges_iff.mp hn
  rw [← Bool.not_eq_true, inRanges_iff]
  rintro ⟨t, ht, htlow, hthigh⟩
  have hapart := List.all_eq_true.mp (List.all_eq_true.mp h r hr) t ht
  simp only [Bool.or_eq_true, Nat.blt_eq] at hapart
  omega

/-- Ranges of the blank characters. -/
def blankRanges : List (Nat × Nat) := [
  (0x09, 0x0D), (0x1C, 0x20), (0x85, 0x85), (0xA0, 0xA0), (0x1680, 0x1680), (0x2000, 0x200A),
  (0x2028, 0x2029), (0x202F, 0x202F), (0x205F, 0x205F), (0x3000, 0x3000)]

theorem isBlank_eq_inRanges
    (c : Char) :
    isBlank c = inRanges blankRanges c.toNat := by
  rw [Bool.eq_iff_iff, inRanges_iff]
  simp only [isBlank, singleBlanks, blankRanges, Bool.or_eq_true, Bool.and_eq_true,
    decide_eq_true_eq, List.contains_eq_mem, List.mem_cons, List.not_mem_nil, or_false,
    exists_eq_or_imp, exists_eq_left]
  omega

theorem casedRanges_separate_blankRanges :
    separate blankRanges casedRanges = true := by
  decide +kernel

theorem caseIgnorableRanges_separate_blankRanges :
    separate blankRanges caseIgnorableRanges = true := by
  decide +kernel

theorem casedRanges_separate_caseIgnorableRanges :
    separate casedRanges caseIgnorableRanges = true := by
  decide +kernel

/-- A blank has no case, and the search for a cased letter ends at it. -/
theorem of_isBlank
    {c : Char}
    (h : isBlank c = true) :
    isCased c = false ∧ isCaseIgnorable c = false := by
  rw [isBlank_eq_inRanges] at h
  exact ⟨not_inRanges_of_separate casedRanges_separate_blankRanges h,
    not_inRanges_of_separate caseIgnorableRanges_separate_blankRanges h⟩

/-! ### Runs -/

namespace LetterRun

/-- The run of the other cases, which leads back. -/
def opposite (r : LetterRun) : LetterRun where
  first := (r.first + r.shift).toNat
  last := (r.last + r.shift).toNat
  stride := r.stride
  shift := -r.shift

theorem covers_iff
    {r : LetterRun}
    {n : Nat} :
    r.covers n = true ↔ r.first ≤ n ∧ n ≤ r.last ∧ (n - r.first) % r.stride = 0 := by
  simp [covers, and_assoc]

/-- Whether all code points of a run are in one range, or each of them in some range. -/
def within (ranges : List (Nat × Nat)) (r : LetterRun) : Bool :=
  ranges.any (fun range => Nat.ble range.1 r.first && Nat.ble r.last range.2) ||
    (List.range' r.first (r.last + 1 - r.first)).all fun n => !r.covers n || inRanges ranges n

theorem inRanges_of_within
    {ranges : List (Nat × Nat)}
    {r : LetterRun}
    (h : r.within ranges = true)
    {n : Nat}
    (hn : r.covers n = true) :
    inRanges ranges n = true := by
  obtain ⟨hfirst, hlast, -⟩ := covers_iff.mp hn
  rcases Bool.or_eq_true_iff.mp h with hone | heach
  · obtain ⟨range, hrange, hends⟩ := List.any_eq_true.mp hone
    simp only [Bool.and_eq_true, Nat.ble_eq] at hends
    exact inRanges_iff.mpr ⟨range, hrange, by omega, by omega⟩
  · have hmem : n ∈ List.range' r.first (r.last + 1 - r.first) := by
      rw [List.mem_range'_1]
      omega
    simpa [hn] using List.all_eq_true.mp heach n hmem

/-- Whether no code point belongs to both runs: they lie apart, or each code point of the one misses the
other. -/
def apart (r t : LetterRun) : Bool :=
  Nat.blt r.last t.first || Nat.blt t.last r.first ||
    (List.range' r.first (r.last + 1 - r.first)).all fun n => !(r.covers n && t.covers n)

theorem not_covers_of_apart
    {r t : LetterRun}
    (h : r.apart t = true)
    {n : Nat}
    (hn : r.covers n = true) :
    t.covers n = false := by
  obtain ⟨hfirst, hlast, -⟩ := covers_iff.mp hn
  rw [← Bool.not_eq_true]
  intro ht
  obtain ⟨htfirst, htlast, -⟩ := covers_iff.mp ht
  simp only [apart, Bool.or_eq_true, Nat.blt_eq] at h
  rcases h with (h | h) | h
  · omega
  · omega
  · have hmem : n ∈ List.range' r.first (r.last + 1 - r.first) := by
      rw [List.mem_range'_1]
      omega
    simpa [hn, ht] using List.all_eq_true.mp h n hmem

/-- Whether the letters of a run and their other cases are characters, none of them blank. -/
def isRegular (r : LetterRun) : Bool :=
  0 ≤ r.first + r.shift &&
    (r.opposite.last < 0xD800 || 0xDFFF < r.opposite.first && r.opposite.last < 0x110000) &&
    separate blankRanges [(r.first, r.last), (r.opposite.first, r.opposite.last)]

theorem covers_opposite
    {r : LetterRun}
    (h : r.isRegular = true)
    {n : Nat}
    (hn : r.covers n = true) :
    r.opposite.covers (n + r.shift).toNat = true := by
  simp only [isRegular, Bool.and_eq_true, decide_eq_true_eq] at h
  obtain ⟨hfirst, hlast, hstride⟩ := covers_iff.mp hn
  have hoffset : (n + r.shift).toNat - (r.first + r.shift).toNat = n - r.first := by
    omega
  refine covers_iff.mpr ⟨?_, ?_, ?_⟩
  · simp only [opposite]
    omega
  · simp only [opposite]
    omega
  · simp only [opposite]
    rw [hoffset]
    exact hstride

/-- A code point goes to its other case in the run that has it, or stays where no run has it. -/
theorem apply_cases
    (runs : List LetterRun)
    (n : Nat) :
    (∃ r ∈ runs, r.covers n = true ∧ apply runs n = (n + r.shift).toNat) ∨
      (∀ r ∈ runs, r.covers n = false) ∧ apply runs n = n := by
  unfold apply
  split
  · next r hfound =>
      have hr : r.covers n = true := List.find?_some (p := (covers · n)) hfound
      exact .inl ⟨r, List.mem_of_find?_eq_some hfound, hr, rfl⟩
  · next hnone =>
      refine .inr ⟨fun r hr => ?_, rfl⟩
      simpa using List.find?_eq_none.mp hnone r hr

/-- Below the other runs only the first one counts. -/
theorem apply_of_lt
    {r : LetterRun}
    {runs : List LetterRun}
    {n : Nat}
    (h : ∀ t ∈ runs, n < t.first) :
    apply (r :: runs) n = apply [r] n := by
  have hnone : runs.find? (covers · n) = none := by
    refine List.find?_eq_none.mpr fun t ht hcovers => ?_
    have hfirst := (covers_iff.mp hcovers).1
    have hlt := h t ht
    omega
  rw [apply, apply, List.find?_cons, List.find?_cons, hnone, List.find?_nil]

end LetterRun

open LetterRun

theorem toNat_ofNat_of_isValidChar
    {n : Nat}
    (h : n.isValidChar) :
    (Char.ofNat n).toNat = n := by
  rw [Char.ofNat, dif_pos h]
  rfl

/-- The other case that a table of regular runs assigns to a character: a character, which is blank
exactly when the character is, and then it is the character itself. -/
theorem apply_spec
    {runs : List LetterRun}
    (h : ∀ r ∈ runs, r.isRegular = true)
    (c : Char) :
    (Char.ofNat (apply runs c.toNat)).toNat = apply runs c.toNat ∧
      isBlank (Char.ofNat (apply runs c.toNat)) = isBlank c ∧
      (isBlank c = true → Char.ofNat (apply runs c.toNat) = c) := by
  obtain ⟨r, hr, hcovers, happly⟩ | ⟨-, happly⟩ := apply_cases runs c.toNat
  · have hregular := h r hr
    obtain ⟨hfirst, hlast, -⟩ := covers_iff.mp hcovers
    obtain ⟨hofirst, holast, -⟩ := covers_iff.mp (covers_opposite hregular hcovers)
    simp only [isRegular, Bool.and_eq_true, Bool.or_eq_true, decide_eq_true_eq] at hregular
    obtain ⟨⟨-, hvalid⟩, hseparate⟩ := hregular
    have hnot {n : Nat}
        (hn : r.first ≤ n ∧ n ≤ r.last ∨ r.opposite.first ≤ n ∧ n ≤ r.opposite.last) :
        inRanges blankRanges n = false := by
      rw [← Bool.not_eq_true]
      intro hblank
      have := not_inRanges_of_separate hseparate hblank
      simp [inRanges] at this
      omega
    have hcode : (Char.ofNat (apply runs c.toNat)).toNat = apply runs c.toNat := by
      rw [happly]
      refine toNat_ofNat_of_isValidChar ?_
      unfold Nat.isValidChar
      omega
    have hc : isBlank c = false := by
      rw [isBlank_eq_inRanges]
      exact hnot (.inl ⟨hfirst, hlast⟩)
    refine ⟨hcode, ?_, ?_⟩
    · rw [hc, isBlank_eq_inRanges, hcode, happly]
      exact hnot (.inr ⟨hofirst, holast⟩)
    · simp [hc]
  · rw [happly, Char.ofNat_toNat]
    exact ⟨rfl, rfl, fun _ => rfl⟩

/-! ### Lower case -/

theorem lowerRuns_regular :
    ∀ r ∈ lowerRuns, r.isRegular = true := by
  decide +kernel

/-- The dotted capital I as a run, and the runs of the letters that have another lower case. -/
def lowerableRuns : List LetterRun := ⟨0x130, 0x130, 1, 0⟩ :: lowerRuns

/-- No lower case is a letter that has another lower case. -/
theorem lowerRuns_apart :
    ∀ r ∈ lowerRuns, lowerableRuns.all r.opposite.apart = true := by
  decide +kernel

/-- Whether a character is its own lower case, wherever it stands. -/
def IsLowerCase (c : Char) : Prop := ∀ r ∈ lowerableRuns, r.covers c.toNat = false

instance : DecidablePred IsLowerCase := fun c =>
  inferInstanceAs (Decidable (∀ r ∈ lowerableRuns, r.covers c.toNat = false))

/-- A capital sigma is the one letter whose lower case depends on where it stands. -/
theorem lowerLetter_of_ne_sigma
    {c : Char}
    (h : c ≠ 'Σ')
    (before after : List Char) :
    lowerLetter before c after = lower [c] := by
  have hcode : c.toNat ≠ 0x3A3 := fun hcode => h (Char.toNat_inj.mp hcode)
  simp [lower, lowerAfter, lowerLetter, hcode]

theorem lowerLetter_sigma
    (before after : List Char) :
    lowerLetter before 'Σ' after =
      [if meetsCased before && !meetsCased after then 'ς' else 'σ'] := by
  simp only [lowerLetter, Char.reduceToNat]
  cases meetsCased before && !meetsCased after <;> rfl

theorem lowerLetter_of_isLowerCase
    {c : Char}
    (h : IsLowerCase c)
    (before after : List Char) :
    lowerLetter before c after = [c] := by
  have hne {d : Char} (hd : ¬IsLowerCase d) : c.toNat ≠ d.toNat := fun hc =>
    hd (Char.toNat_inj.mp hc ▸ h)
  have hdotted : c.toNat ≠ 0x130 := hne (d := 'İ') (by decide +kernel)
  have hsigma : c.toNat ≠ 0x3A3 := hne (d := 'Σ') (by decide +kernel)
  rw [lowerLetter, if_neg hdotted, if_neg hsigma]
  obtain ⟨r, hr, hcovers, -⟩ | ⟨-, happly⟩ := apply_cases lowerRuns c.toNat
  · simp [h r (List.mem_cons_of_mem _ hr)] at hcovers
  · rw [happly, Char.ofNat_toNat]

/-- The lower case of a character has no other lower case. -/
theorem isLowerCase_of_mem_lowerLetter
    {before after : List Char}
    {c d : Char}
    (hd : d ∈ lowerLetter before c after) :
    IsLowerCase d := by
  unfold lowerLetter at hd
  split at hd
  · simp only [List.mem_cons, List.not_mem_nil, or_false] at hd
    rcases hd with rfl | rfl <;> decide +kernel
  · next hdotted =>
      split at hd
      · rw [List.mem_singleton.mp hd]
        cases meetsCased before && !meetsCased after <;> decide +kernel
      · rw [List.mem_singleton.mp hd]
        intro t ht
        rw [(apply_spec lowerRuns_regular c).1]
        obtain ⟨r, hr, hcovers, happly⟩ | ⟨hnone, happly⟩ := apply_cases lowerRuns c.toNat
        · rw [happly]
          exact not_covers_of_apart (List.all_eq_true.mp (lowerRuns_apart r hr) t ht)
            (covers_opposite (lowerRuns_regular r hr) hcovers)
        · rw [happly]
          rcases List.mem_cons.mp ht with rfl | ht
          · rw [← Bool.not_eq_true, covers_iff]
            dsimp only
            omega
          · exact hnone t ht

/-- Which characters of the lower case are blank: those of a blank, which stays as it is. -/
theorem lowerLetter_blank
    (before : List Char)
    (c : Char)
    (after : List Char) :
    (isBlank c = true → lowerLetter before c after = [c]) ∧
      (isBlank c = false → ∀ d ∈ lowerLetter before c after, isBlank d = false) := by
  unfold lowerLetter
  split
  · next hc =>
      refine ⟨fun h => ?_, fun _ d hd => ?_⟩
      · simp [isBlank, singleBlanks, hc] at h
      · simp only [List.mem_cons, List.not_mem_nil, or_false] at hd
        rcases hd with rfl | rfl <;> decide
  · split
    · next hc =>
        refine ⟨fun h => ?_, fun _ d hd => ?_⟩
        · simp [isBlank, singleBlanks, hc] at h
        · rw [List.mem_singleton.mp hd]
          cases meetsCased before && !meetsCased after <;> decide
    · obtain ⟨-, hblank, hself⟩ := apply_spec lowerRuns_regular c
      refine ⟨fun h => by rw [hself h], fun h d hd => ?_⟩
      rw [List.mem_singleton.mp hd, hblank, h]

theorem length_lowerLetter
    (before : List Char)
    (c : Char)
    (after : List Char) :
    (lowerLetter before c after).length = if c.toNat = 0x130 then 2 else 1 := by
  unfold lowerLetter
  split
  · rfl
  · split <;> rfl

theorem lowerLetter_ne_nil
    (before : List Char)
    (c : Char)
    (after : List Char) :
    lowerLetter before c after ≠ [] := by
  intro hnil
  have hlength := length_lowerLetter before c after
  rw [hnil, List.length_nil] at hlength
  split at hlength <;> omega

/-! ### Upper case -/

theorem upperRuns_regular :
    ∀ r ∈ upperRuns, r.isRegular = true := by
  decide +kernel

/-- Every letter with an upper case of one character has a case, as its upper case does, but for the
combining iota. -/
theorem upperRuns_cased :
    ∀ r ∈ upperRuns, r.first = 0x345 ∧ r.last = 0x345 ∨
      r.within casedRanges = true ∧ r.opposite.within casedRanges = true := by
  decide +kernel

/-- Only the two small sigmas go to the capital sigma. -/
theorem upperRuns_sigma :
    ∀ r ∈ upperRuns, r.covers (0x3A3 - r.shift).toNat = true →
      0x3A3 - r.shift = 0x3C3 ∨ 0x3A3 - r.shift = 0x3C2 := by
  decide +kernel

theorem upperExpansions_spec :
    ∀ e ∈ upperExpansions, e.1 ≠ 0x130 ∧ 2 ≤ e.2.length ∧ inRanges blankRanges e.1 = false ∧
      ∀ n ∈ e.2, n.isValidChar ∧ inRanges blankRanges n = false ∧ n ≠ 0x3A3 := by
  decide +kernel

/-- The upper case of a letter is several characters or the one that the runs assign. -/
theorem upperLetter_cases
    (c : Char) :
    (∃ codes, (c.toNat, codes) ∈ upperExpansions ∧ upperLetter c = codes.map Char.ofNat) ∨
      upperLetter c = [Char.ofNat (apply upperRuns c.toNat)] := by
  unfold upperLetter
  split
  · next codes hfound =>
      obtain ⟨earlier, later, htable, -⟩ := List.lookup_eq_some_iff.mp hfound
      exact .inl ⟨codes, by simp [htable], rfl⟩
  · exact .inr rfl

/-- Which characters of the upper case are blank: those of a blank, which stays as it is. -/
theorem upperLetter_blank
    (c : Char) :
    (isBlank c = true → upperLetter c = [c]) ∧
      (isBlank c = false → ∀ d ∈ upperLetter c, isBlank d = false) := by
  obtain ⟨codes, hmem, hupper⟩ | hupper := upperLetter_cases c
  · obtain ⟨-, -, hkey, hcodes⟩ := upperExpansions_spec _ hmem
    refine ⟨fun h => ?_, fun _ d hd => ?_⟩
    · rw [isBlank_eq_inRanges] at h
      simp [hkey] at h
    · rw [hupper] at hd
      obtain ⟨n, hn, rfl⟩ := List.mem_map.mp hd
      obtain ⟨hvalid, hblank, -⟩ := hcodes n hn
      rw [isBlank_eq_inRanges, toNat_ofNat_of_isValidChar hvalid, hblank]
  · obtain ⟨-, hblank, hself⟩ := apply_spec upperRuns_regular c
    rw [hupper]
    refine ⟨fun h => by rw [hself h], fun h d hd => ?_⟩
    rw [List.mem_singleton.mp hd, hblank, h]

theorem upperLetter_ne_nil
    (c : Char) :
    upperLetter c ≠ [] := by
  obtain ⟨codes, hmem, hupper⟩ | hupper := upperLetter_cases c
  · obtain ⟨-, hlength, -⟩ := upperExpansions_spec _ hmem
    intro hnil
    simp [hupper] at hnil
    simp [hnil] at hlength
  · simp [hupper]

/-- A capital sigma is the upper case of the three sigmas alone. -/
theorem eq_of_sigma_mem_upperLetter
    {c : Char}
    (h : 'Σ' ∈ upperLetter c) :
    c = 'Σ' ∨ c = 'σ' ∨ c = 'ς' := by
  obtain ⟨codes, hmem, hupper⟩ | hupper := upperLetter_cases c
  · obtain ⟨-, -, -, hcodes⟩ := upperExpansions_spec _ hmem
    rw [hupper] at h
    obtain ⟨n, hn, hsigma⟩ := List.mem_map.mp h
    obtain ⟨hvalid, -, hne⟩ := hcodes n hn
    have hcode := toNat_ofNat_of_isValidChar hvalid
    rw [hsigma] at hcode
    exact absurd hcode.symm hne
  · have hcode := (apply_spec upperRuns_regular c).1
    rw [hupper] at h
    rw [← List.mem_singleton.mp h] at hcode
    obtain ⟨r, hr, hcovers, happly⟩ | ⟨-, happly⟩ := apply_cases upperRuns c.toNat
    · have hc : (c.toNat : Int) = 0x3A3 - r.shift := by
        have : ('Σ'.toNat : Int) = 0x3A3 := rfl
        omega
      have hsmall := upperRuns_sigma r hr (by rw [← hc]; exact hcovers)
      rw [← hc] at hsmall
      rcases hsmall with hsmall | hsmall
      · have hcode : c.toNat = 0x3C3 := by omega
        exact .inr (.inl (Char.toNat_inj.mp hcode))
      · have hcode : c.toNat = 0x3C2 := by omega
        exact .inr (.inr (Char.toNat_inj.mp hcode))
    · rw [happly] at hcode
      exact .inl (Char.toNat_inj.mp hcode.symm)

/-- An upper case of one character, which is met in the search for a cased letter as the character is:
that of any character but the combining iota, where it is not several characters. -/
theorem upperLetter_cased
    {c : Char}
    (hone : (upperLetter c).length ≤ 1)
    (hc : c.toNat ≠ 0x345) :
    ∃ d : Char,
      upperLetter c = [d] ∧ isCased d = isCased c ∧ isCaseIgnorable d = isCaseIgnorable c := by
  obtain ⟨codes, hmem, hupper⟩ | hupper := upperLetter_cases c
  · obtain ⟨-, hlength, -⟩ := upperExpansions_spec _ hmem
    rw [hupper, List.length_map] at hone
    simp only at hlength
    omega
  · refine ⟨_, hupper, ?_⟩
    obtain ⟨r, hr, hcovers, happly⟩ | ⟨-, happly⟩ := apply_cases upperRuns c.toNat
    · have hwithin : r.within casedRanges = true ∧ r.opposite.within casedRanges = true := by
        refine (upperRuns_cased r hr).resolve_left fun hiota => hc ?_
        have := covers_iff.mp hcovers
        omega
      have hcased : inRanges casedRanges c.toNat = true := inRanges_of_within hwithin.1 hcovers
      have hother : inRanges casedRanges (apply upperRuns c.toNat) = true := by
        rw [happly]
        exact inRanges_of_within hwithin.2 (covers_opposite (upperRuns_regular r hr) hcovers)
      unfold isCased isCaseIgnorable
      rw [(apply_spec upperRuns_regular c).1, hcased, hother,
        not_inRanges_of_separate casedRanges_separate_caseIgnorableRanges hcased,
        not_inRanges_of_separate casedRanges_separate_caseIgnorableRanges hother]
      exact ⟨rfl, rfl⟩
    · rw [happly, Char.ofNat_toNat]
      exact ⟨rfl, rfl⟩

/-! ### The first 128 characters -/

/-- The small letters among the first 128 characters. -/
def smallLetters : LetterRun := ⟨0x61, 0x7A, 1, -32⟩

/-- The capital letters among the first 128 characters. -/
def capitalLetters : LetterRun := ⟨0x41, 0x5A, 1, 32⟩

theorem upperLetter_of_lt
    {c : Char}
    (h : c.toNat < 0x80) :
    upperLetter c = [Char.ofNat (apply [smallLetters] c.toNat)] := by
  obtain ⟨codes, hmem, -⟩ | hupper := upperLetter_cases c
  · have hkeys : ∀ e ∈ upperExpansions, 0x80 ≤ e.1 := by decide +kernel
    have hkey := hkeys _ hmem
    dsimp only at hkey
    omega
  · have hothers : ∀ t ∈ upperRuns.tail, 0x80 ≤ t.first := by decide +kernel
    rw [hupper, ← apply_of_lt fun t ht => Nat.lt_of_lt_of_le h (hothers t ht)]
    rfl

theorem lowerLetter_of_lt
    {c : Char}
    (h : c.toNat < 0x80)
    (before after : List Char) :
    lowerLetter before c after = [Char.ofNat (apply [capitalLetters] c.toNat)] := by
  have hothers : ∀ t ∈ lowerRuns.tail, 0x80 ≤ t.first := by decide +kernel
  rw [lowerLetter, if_neg (by omega), if_neg (by omega),
    ← apply_of_lt fun t ht => Nat.lt_of_lt_of_le h (hothers t ht)]
  rfl

/-- Both cases of the first 128 characters are among these, and the upper case comes back as the lower. -/
theorem apply_letters_of_lt :
    ∀ n < 0x80, apply [smallLetters] n < 0x80 ∧
      apply [capitalLetters] (apply [smallLetters] n) = apply [capitalLetters] n := by
  decide +kernel

end Text
end Reckoner
