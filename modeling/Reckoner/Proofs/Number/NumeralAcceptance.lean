import Reckoner.Proofs.Number.NumeralFailures

/-!
# Texts that are read as numerals

A text is read as a numeral if it is one of the grammar or one line end follows such a numeral.  It is
rejected in all other cases, and only then.  A numeral fails for its range, except that the digits are
converted without the zeros at their start: from zeros and a line end no digit is left.  With thousands
of exact places there may also be too many digits to convert.

**Results.**
* `isNumeral_iff`: the texts that are read as numerals.
* `toRational_failure_cause`, `toRational_eq_lineEnd_iff`: the causes for which a text is no rational.
* `lt_places_of_tooLong`: a numeral has too many digits to convert only with thousands of places.
* `toValue_failures`: the causes for which a text has no value, and which texts they are about.
-/

namespace Reckoner
namespace Numeral

section LineEnd

variable {cs ds : List Char}

@[simp] theorem dropLineEnd_append
    (ds : List Char) :
    dropLineEnd (ds ++ ['\n']) = ds := by
  simp [dropLineEnd]

/-- A text loses nothing or one line end. -/
theorem dropLineEnd_cases
    (cs : List Char) :
    dropLineEnd cs = cs ∨ cs = dropLineEnd cs ++ ['\n'] := by
  unfold dropLineEnd
  split
  · next hlast =>
      right
      exact (List.dropLast_append_getLast? '\n' hlast).symm
  · left
    rfl

/-- The texts that are read as numerals are those of the grammar, with or without a line end. -/
theorem isNumeral_iff
    (cs : List Char) :
    isNumeral cs = true ↔
      IsLiteral cs ∨ ∃ ds : List Char, IsLiteral ds ∧ cs = ds ++ ['\n'] := by
  rw [isNumeral, isPlain_iff_isLiteral]
  constructor
  · intro h
    rcases dropLineEnd_cases cs with hsame | hend
    · left
      rwa [hsame] at h
    · right
      exact ⟨_, h, hend⟩
  · rintro (h | ⟨ds, h, rfl⟩)
    · rwa [dropLineEnd_of_not_mem (lineEnd_not_mem h)]
    · rwa [dropLineEnd_append]

/-- A line end at the end of a text is the last of its digits, on whichever side of the point. -/
theorem digits_append_lineEnd
    (ds : List Char) :
    whole (ds ++ ['\n']) ++ fraction (ds ++ ['\n']) = whole ds ++ fraction ds ++ ['\n'] := by
  induction ds with
  | nil =>
      simp [whole, fraction]
  | cons d ds ih =>
      by_cases hd : d = '.'
      · subst hd
        simp
      · simpa [whole, fraction, hd] using ih

end LineEnd

section Conversion

variable {cs ds : List Char}

theorem dropLineEnd_eq_nil_iff :
    dropLineEnd cs = [] ↔ cs = [] ∨ cs = ['\n'] := by
  constructor
  · intro h
    rcases dropLineEnd_cases cs with hsame | hend
    · left
      rw [← hsame, h]
    · right
      rw [hend, h, List.nil_append]
  · rintro (rfl | rfl) <;> rfl

/-- Digits are not converted because there is none or because there are too many. -/
theorem readInteger_failure_cause
    {f : Failure}
    (h : readInteger cs = .error f) :
    f = .lineEndNumeral ∧ (cs = [] ∨ cs = ['\n']) ∨
      (∃ digits : Option Nat, f = .integerLength digits) ∧ longestInteger < (dropLineEnd cs).length := by
  unfold readInteger at h
  split at h
  · next hnone =>
      cases h
      exact .inl ⟨rfl, dropLineEnd_eq_nil_iff.mp hnone⟩
  · split at h
    · next hlength =>
        cases h
        exact .inr ⟨⟨_, rfl⟩, hlength⟩
    · cases h

theorem readInteger_eq_ok
    {n : Nat}
    (h : readInteger cs = .ok n) :
    n = digitsValue (dropLineEnd cs) ∧ (dropLineEnd cs).length ≤ longestInteger := by
  unfold readInteger at h
  split at h
  · cases h
  · split at h
    · cases h
    · next hlength =>
        cases h
        exact ⟨rfl, Nat.not_lt.mp hlength⟩

/-- Zeros before a line end are not significant. -/
theorem significant_append_lineEnd :
    significant (ds ++ ['\n']) = ['\n'] ↔ ∀ c ∈ ds, c = '0' := by
  induction ds with
  | nil =>
      simp [significant]
  | cons d ds ih =>
      by_cases hd : d = '0'
      · subst hd
        simpa [significant] using ih
      · simp [significant, hd]

/-- A text is refused as a rational for its range, because a line end is all that is left of its
digits, or because an integer has too many digits. -/
theorem toRational_failure_cause
    {f : Failure}
    (hf : toRational cs = .error f) :
    f.kind = .fractionOverflow ∨
      f = .lineEndNumeral ∧ significant (whole cs ++ fraction cs) = ['\n'] ∨
      ∃ digits : Option Nat, f = .integerLength digits := by
  simp only [toRational] at hf
  split at hf
  · left
    cases hf
    rfl
  · split at hf
    · next hread =>
        right
        cases hf
        rcases readInteger_failure_cause hread with ⟨rfl, hleft⟩ | ⟨htooLong, -⟩
        · exact .inl ⟨rfl, hleft.resolve_left (significant_ne_nil _)⟩
        · exact .inr htooLong
    · rw [Rational.ofParts_eq_ofRat _ (tenPow_ne_zero _), Rational.ofRat_eq_error_iff_range] at hf
      rw [hf.2]
      rcases (Failure.fractionRange _ _).worded_cases with hworded | hworded <;> rw [hworded]
      · exact .inl rfl
      · exact .inr (.inr ⟨_, rfl⟩)

theorem toRational_eq_lineEnd_iff :
    toRational cs = .error .lineEndNumeral ↔
      significant (whole cs ++ fraction cs) = ['\n'] := by
  constructor
  · intro h
    rcases toRational_failure_cause h with hkind | ⟨-, hleft⟩ | ⟨digits, hdigits⟩
    · cases hkind
    · exact hleft
    · cases hdigits
  · intro hleft
    -- One character is never too many, so the conversion is reached.
    have hbefore : ¬ wordDigits < (1 : Int) - ((fraction cs).length : Int) := by
      unfold wordDigits
      omega
    have hread : readInteger ['\n'] = .error .lineEndNumeral := rfl
    simp [toRational, hleft, hbefore, hread]

/-- The digits of a text are its characters without the point. -/
theorem mem_digits_iff
    {c : Char}
    (hc : c ≠ '.') :
    c ∈ whole ds ++ fraction ds ↔ c ∈ ds := by
  rcases eq_whole_or_point ds with ⟨hds, hnone⟩ | hds
  · rw [hnone, List.append_nil, ← hds]
  · conv_rhs => rw [hds]
    simp [hc]

/-- All digits of a numeral are zeros if it is made of zeros and a point. -/
theorem zeros_iff
    (h : IsLiteral ds) :
    (∀ c ∈ whole ds ++ fraction ds, c = '0') ↔ ∀ c ∈ ds, c = '0' ∨ c = '.' := by
  obtain ⟨hdigits, -⟩ := digits_of_isLiteral h
  constructor
  · intro hzeros c hmem
    by_cases hc : c = '.'
    · exact .inr hc
    · exact .inl (hzeros c ((mem_digits_iff hc).mpr hmem))
  · intro hzeros c hmem
    have hc := ne_point_of_isDigit (hdigits c hmem)
    exact (hzeros c ((mem_digits_iff hc).mp hmem)).resolve_right hc

/-- A line end is all that is left of the digits of the numerals of zero that have one. -/
theorem toRational_eq_lineEnd_iff_zeros
    (h : isNumeral cs = true) :
    toRational cs = .error .lineEndNumeral ↔
      ∃ ds : List Char,
        IsLiteral ds ∧ cs = ds ++ ['\n'] ∧ ∀ c ∈ ds, c = '0' ∨ c = '.' := by
  constructor
  · intro hread
    rcases (isNumeral_iff cs).mp h with hliteral | ⟨ds, hliteral, rfl⟩
    · rcases toRational_failure_kind hliteral hread with hkind | ⟨-, digits, hdigits⟩
      · cases hkind
      · cases hdigits
    · refine ⟨ds, hliteral, rfl, ?_⟩
      rw [toRational_eq_lineEnd_iff, digits_append_lineEnd, significant_append_lineEnd] at hread
      exact (zeros_iff hliteral).mp hread
  · rintro ⟨ds, hliteral, rfl, hzeros⟩
    rw [toRational_eq_lineEnd_iff, digits_append_lineEnd, significant_append_lineEnd]
    exact (zeros_iff hliteral).mpr hzeros

/-- What is converted of a numeral are digits. -/
theorem digits_converted
    (h : isNumeral cs = true) :
    Digits (dropLineEnd (significant (whole cs ++ fraction cs))) := by
  rcases (isNumeral_iff cs).mp h with hliteral | ⟨ds, hliteral, rfl⟩
  · have hdigits := digits_significant (digits_of_isLiteral hliteral).1
    rwa [dropLineEnd_of_not_mem fun hmem => absurd (hdigits '\n' hmem) (by decide)]
  · obtain ⟨hdigits, -⟩ := digits_of_isLiteral hliteral
    have hend :
        significant (whole ds ++ fraction ds ++ ['\n']) =
          (whole ds ++ fraction ds).dropWhile (· == '0') ++ ['\n'] := by
      rw [significant, List.dropWhile_append]
      cases (whole ds ++ fraction ds).dropWhile (· == '0') <;> rfl
    rw [digits_append_lineEnd, hend, dropLineEnd_append]
    exact fun c hc => hdigits c ((List.dropWhile_sublist _).mem hc)

/-- There are too many of them only if thousands stand after the point. -/
theorem lt_places_of_tooLong
    (h : isNumeral cs = true)
    {digits : Option Nat}
    (hf : toRational cs = .error (.integerLength digits)) :
    longestInteger < (fraction cs).length + 19 := by
  have hdropped :
      (dropLineEnd (significant (whole cs ++ fraction cs))).length ≤
        (significant (whole cs ++ fraction cs)).length := by
    unfold dropLineEnd
    split <;> simp
  simp only [toRational] at hf
  split at hf
  · cases hf
  · next hbefore =>
      unfold wordDigits at hbefore
      split at hf
      · next hread =>
          cases hf
          obtain ⟨hnone, -⟩ | ⟨-, hlong⟩ := readInteger_failure_cause hread
          · cases hnone
          · omega
      · next n hread =>
          obtain ⟨rfl, hlength⟩ := readInteger_eq_ok hread
          have hnum : IsWritable (digitsValue (dropLineEnd (significant (whole cs ++ fraction cs)))) := by
            rw [IsWritable, Int.natAbs_natCast]
            exact lt_of_lt_of_le (digitsValue_lt_pow (digits_converted h))
              (Nat.pow_le_pow_right (by decide) hlength)
          rw [Rational.ofParts_eq_ofRat _ (tenPow_ne_zero _)] at hf
          by_contra hplaces
          have hden : IsWritable (tenPow (fraction cs).length) :=
            isWritable_tenPow (by omega)
          cases Rational.eq_fractionRange_of_ofRat (Rational.writableParts_div hnum hden) hf

end Conversion

section Causes

variable {p : Precision} {cs : List Char}

/-- Any other text is rejected as it is. -/
theorem toValue_of_not_isNumeral
    (p : Precision)
    (h : isNumeral cs = false) :
    toValue p cs = .error (.notNumeral (String.ofList cs)) := by
  simp [toValue, h]

/-- A numeral fails for the three causes of its rational. -/
theorem toValue_failure_cause
    (hscale : 1 ≤ p.scale)
    (h : isNumeral cs = true)
    {f : Failure}
    (hf : toValue p cs = .error f) :
    f.kind = .fractionOverflow ∨ f = .lineEndNumeral ∨
      (∃ digits : Option Nat, f = .integerLength digits) ∧ 4281 < p.exactPlaces := by
  obtain ⟨hexact, hread⟩ := toValue_failure hscale h hf
  refine (toRational_failure_cause hread).imp_right (Or.imp And.left ?_)
  rintro ⟨digits, rfl⟩
  have hplaces := lt_places_of_tooLong h hread
  rw [longestInteger_eq] at hplaces
  exact ⟨⟨digits, rfl⟩, by omega⟩

/-- It fails as its rational does where it is exact. -/
theorem toValue_eq_lineEnd_iff
    (hscale : 1 ≤ p.scale)
    (h : isNumeral cs = true) :
    toValue p cs = .error .lineEndNumeral ↔
      toRational cs = .error .lineEndNumeral ∧ ((fraction cs).length : Int) ≤ p.exactPlaces := by
  constructor
  · intro hf
    exact (toValue_failure hscale h hf).symm
  · rintro ⟨hread, hexact⟩
    rw [toValue_of_isNumeral hscale h, if_neg (Int.not_lt.mpr hexact), hread]
    rfl

end Causes

/-- Exactly the texts that are no numerals are rejected as such.  A numeral fails for its range, and in
one other case: nothing is left to convert of the zeros of an exact numeral with a line end.  Only with
thousands of exact places can there also be too much to convert. -/
theorem toValue_failures
    {p : Precision}
    (hscale : 1 ≤ p.scale)
    (cs : List Char) :
    (isNumeral cs = true ↔
      IsLiteral cs ∨ ∃ ds : List Char, IsLiteral ds ∧ cs = ds ++ ['\n']) ∧
    ((∃ f : Failure, toValue p cs = .error f ∧ f.kind = .invalidConstruction) ↔
      isNumeral cs = false) ∧
    (∀ f : Failure,
      toValue p cs = .error f →
        f.kind = .invalidConstruction ∨ f.kind = .fractionOverflow ∨ f = .lineEndNumeral ∨
          (∃ digits : Option Nat, f = .integerLength digits) ∧ 4281 < p.exactPlaces) ∧
    (toValue p cs = .error .lineEndNumeral ↔
      (∃ ds : List Char,
        IsLiteral ds ∧ cs = ds ++ ['\n'] ∧ ∀ c ∈ ds, c = '0' ∨ c = '.') ∧
      ((fraction cs).length : Int) ≤ p.exactPlaces) := by
  refine ⟨isNumeral_iff cs, ?_⟩
  cases hnumeral : isNumeral cs with
  | false =>
      rw [toValue_of_not_isNumeral p hnumeral]
      refine ⟨iff_of_true ⟨_, rfl, rfl⟩ rfl, ?_, iff_of_false (by simp) ?_⟩
      · intro f hf
        cases hf
        exact .inl rfl
      · rintro ⟨⟨ds, hliteral, hend, -⟩, -⟩
        rw [(isNumeral_iff cs).mpr (.inr ⟨ds, hliteral, hend⟩)] at hnumeral
        cases hnumeral
  | true =>
      refine ⟨iff_of_false ?_ (by simp), ?_, ?_⟩
      · rintro ⟨f, hf, hkind⟩
        rcases toValue_failure_cause hscale hnumeral hf with hrange | rfl | ⟨⟨digits, rfl⟩, -⟩
        · rw [hrange] at hkind
          cases hkind
        · cases hkind
        · cases hkind
      · intro f hf
        exact .inr (toValue_failure_cause hscale hnumeral hf)
      · rw [toValue_eq_lineEnd_iff hscale hnumeral, toRational_eq_lineEnd_iff_zeros hnumeral]

/-- Zeros and a point with a line end after them. -/
theorem toValue_failures_zeros :
    (1 : Int) ≤ ({} : Precision).scale ∧
      toValue {} "0.00\n".toList = .error .lineEndNumeral := by
  have hscale : (1 : Int) ≤ ({} : Precision).scale := by
    norm_num
  have hliteral : IsLiteral "0.00".toList :=
    (isPlain_iff_isLiteral _).mp rfl
  have hchars : ∀ c ∈ "0.00".toList, c = '0' ∨ c = '.' := by
    simp
  have hexact : ((fraction "0.00\n".toList).length : Int) ≤ ({} : Precision).exactPlaces := by
    simp [fraction]
  obtain ⟨-, -, -, hzeros⟩ := toValue_failures hscale "0.00\n".toList
  exact ⟨hscale, hzeros.mpr ⟨⟨"0.00".toList, hliteral, rfl, hchars⟩, hexact⟩⟩

/-- The grammar has no line end, but `12` with one is read as a numeral, and `0` with one fails for
neither of the two causes. -/
theorem isNumeral_lineEnd :
    (¬ IsLiteral "12\n".toList ∧ isNumeral "12\n".toList = true) ∧
      ¬ IsLiteral "0\n".toList ∧
      ∃ f : Failure,
        toValue {} "0\n".toList = .error f ∧
        f.kind ≠ .invalidConstruction ∧
        f.kind ≠ .fractionOverflow := by
  have htwelve : ¬ IsLiteral "12\n".toList :=
    fun h => lineEnd_not_mem h (by simp)
  have hzero : ¬ IsLiteral "0\n".toList :=
    fun h => lineEnd_not_mem h (by simp)
  exact ⟨⟨htwelve, rfl⟩, hzero, .lineEndNumeral, rfl, by simp [Failure.kind], by simp [Failure.kind]⟩

end Numeral
end Reckoner
