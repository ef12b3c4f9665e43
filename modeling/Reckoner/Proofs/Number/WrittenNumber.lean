import Reckoner.Proofs.Number.DecimalText
import Reckoner.Proofs.Number.NumeralFailures

/-!
# The number that a numeral writes

The grammar of numerals tells the places of each numeral and the number that it writes, shape by shape.
The value of a numeral has exactly this number, as a decimal of as many places or as a rational in lowest
terms, and it is refused only if its lowest terms are not words.  Reading takes two short cuts on the
way, it forgets the zeros at the start and refuses a numeral of too many digits before it has read them.
Neither changes what comes out.  The limit of texts stands in the way of exact numerals of thousands of
places only.

**Results.**
* `writes_iff`: the places and the number, shape by shape and all at once.
* `toValue_cons_zero`: a zero more at the start changes nothing.
* `toRational_eq_ok_iff`: nor does it matter that the digits are counted before they are read.
* `toValue_of_writes`: the value of a numeral.
-/

namespace Reckoner
namespace Numeral

/-- A numeral writes a number with so many places after its point. -/
inductive Writes : List Char → Nat → ℚ → Prop
  | integer
      {ds : List Char}
      (nonempty : ds ≠ [])
      (digits : Digits ds) :
      Writes ds 0 (digitsValue ds)
  | pointed
      {ds es : List Char}
      (nonempty : ds ≠ [])
      (digits : Digits ds)
      (places : Digits es) :
      Writes (ds ++ '.' :: es) es.length (digitsValue ds + digitsValue es / 10 ^ es.length)
  | fraction
      {es : List Char}
      (nonempty : es ≠ [])
      (places : Digits es) :
      Writes ('.' :: es) es.length (digitsValue es / 10 ^ es.length)

/-- Every numeral writes one number. -/
theorem writes_iff
    {cs : List Char}
    {k : Nat}
    {x : ℚ} :
    Writes cs k x ↔ IsLiteral cs ∧ k = (fraction cs).length ∧ x = toRat cs := by
  constructor
  · intro h
    cases h with
    | integer nonempty digits =>
        refine ⟨.integer nonempty digits, by simp [fraction_of_digits digits], ?_⟩
        exact (toRat_of_digits digits).symm
    | pointed nonempty digits places =>
        refine ⟨.pointed nonempty digits places, by rw [fraction_append_point digits], ?_⟩
        exact (toRat_append_point digits _).symm
    | fraction nonempty places =>
        refine ⟨.fraction nonempty places, by rw [fraction_point], ?_⟩
        simp [toRat, digitsValue]
  · rintro ⟨h, rfl, rfl⟩
    cases h with
    | integer nonempty digits =>
        rw [toRat_of_digits digits, fraction_of_digits digits]
        exact .integer nonempty digits
    | pointed nonempty digits places =>
        rw [toRat_append_point digits, fraction_append_point digits]
        exact .pointed nonempty digits places
    | fraction nonempty places =>
        have hwrites := Writes.fraction nonempty places
        simpa [toRat, digitsValue] using hwrites

section LeadingZeros

variable {cs : List Char}

theorem isLiteral_cons_zero
    (h : IsLiteral cs) :
    IsLiteral ('0' :: cs) := by
  have hzero : ∀ {ds : List Char}, Digits ds → Digits ('0' :: ds) :=
    fun hds => List.forall_mem_cons.mpr ⟨rfl, hds⟩
  cases h with
  | integer nonempty digits =>
      exact .integer (List.cons_ne_nil _ _) (hzero digits)
  | pointed nonempty digits places =>
      exact .pointed (List.cons_ne_nil _ _) (hzero digits) places
  | fraction nonempty places =>
      have hnone : Digits [] := by
        simp [Digits]
      exact .pointed (List.cons_ne_nil _ _) (hzero hnone) places

theorem isLiteral_replicate_zero
    (h : IsLiteral cs)
    (m : Nat) :
    IsLiteral (List.replicate m '0' ++ cs) := by
  induction m with
  | zero =>
      exact h
  | succ m ih =>
      exact isLiteral_cons_zero ih

@[simp] theorem whole_cons_zero
    (cs : List Char) :
    whole ('0' :: cs) = '0' :: whole cs := by
  simp [whole]

@[simp] theorem fraction_cons_zero
    (cs : List Char) :
    fraction ('0' :: cs) = fraction cs := by
  simp [fraction]

@[simp] theorem significant_cons_zero
    (ds : List Char) :
    significant ('0' :: ds) = significant ds := by
  simp [significant]

@[simp] theorem digitsValue_cons_zero
    (ds : List Char) :
    digitsValue ('0' :: ds) = digitsValue ds := by
  simp [digitsValue_cons]

/-- A zero more at the start of a numeral changes nothing. -/
theorem toValue_cons_zero
    (p : Precision)
    (h : IsLiteral cs) :
    toValue p ('0' :: cs) = toValue p cs := by
  have hzero := isLiteral_cons_zero h
  have hrational : toRational ('0' :: cs) = toRational cs := by
    simp [toRational]
  have hdecimal : toDecimal ('0' :: cs) = toDecimal cs := by
    simp [toDecimal, dropLineEnd_of_not_mem (lineEnd_not_mem h),
      dropLineEnd_of_not_mem (lineEnd_not_mem hzero)]
  simp [toValue, isNumeral_of_isLiteral h, isNumeral_of_isLiteral hzero, hrational, hdecimal]

/-- Nor does any number of them. -/
theorem toValue_replicate_zero
    (p : Precision)
    (h : IsLiteral cs)
    (m : Nat) :
    toValue p (List.replicate m '0' ++ cs) = toValue p cs := by
  induction m with
  | zero =>
      rfl
  | succ m ih =>
      rw [List.replicate_succ, List.cons_append, toValue_cons_zero p (isLiteral_replicate_zero h m), ih]

end LeadingZeros

section Counting

variable {cs : List Char}

/-- No numeral writes a negative number. -/
theorem toRat_nonneg
    (cs : List Char) :
    0 ≤ toRat cs := by
  unfold toRat
  positivity

/-- So only the upper bounds of the words are in its way. -/
theorem fitsWords_toRat_iff
    (cs : List Char) :
    FitsWords (toRat cs).num (toRat cs).den ↔
      (toRat cs).num ≤ 2 ^ 63 - 1 ∧ ((toRat cs).den : Int) ≤ 2 ^ 63 - 1 := by
  have hnum : leastWord ≤ (toRat cs).num :=
    le_trans (by decide) (Rat.num_nonneg.mpr (toRat_nonneg cs))
  constructor
  · rintro ⟨-, hfits⟩
    exact hfits
  · intro hfits
    exact ⟨hnum, hfits⟩

/-- A numeral whose digits can be read is read as the rational that they make up, although it may be
refused for their number before. -/
theorem toRational_eq_ok_iff
    (h : IsLiteral cs)
    (hlength : ¬ longestInteger < significantDigits cs)
    (q : Rational) :
    toRational cs = .ok q ↔
      Rational.ofParts (digitsValue (whole cs ++ fraction cs)) (tenPow (fraction cs).length) =
        .ok q := by
  rw [Rational.ofParts_eq_ofRat _ (tenPow_ne_zero _), ← toRat_eq_div, toRational_of_isLiteral h,
    if_neg hlength]
  split_ifs with hbefore
  · rw [Rational.ofRat_of_not_fits (not_fits_of_wordDigits_lt h hbefore)]
    simp
  · rfl

end Counting

/-- The value of a numeral is exactly the number that it writes.  With more places than are exact it is a
decimal of as many places, and otherwise the rational in lowest terms, or a failure for the range if
these are not words.  The limit of texts is met with thousands of places only.  The digits that are
counted beforehand refuse no numeral whose lowest terms are words, and zeros at the start of a numeral do
not matter. -/
theorem toValue_of_writes
    {cs : List Char}
    {k : Nat}
    {x : ℚ}
    (h : Writes cs k x)
    {p : Precision}
    (hscale : 1 ≤ p.scale) :
    (p.exactPlaces < k →
      ∃ (v : Value) (d : Decimal),
        toValue p cs = .ok v ∧ v.scale = p.scale ∧ v.number = .approximate d ∧
        d.toRat = x ∧ d.exponent = -(k : Int)) ∧
    ((k : Int) ≤ p.exactPlaces → ¬ BeyondText cs →
      (x.num ≤ 2 ^ 63 - 1 ∧ (x.den : Int) ≤ 2 ^ 63 - 1 →
        ∃ (v : Value) (q : Rational),
          toValue p cs = .ok v ∧ v.scale = p.scale ∧ v.number = .exact q ∧
          q.num = x.num ∧ q.den = x.den) ∧
      (¬ (x.num ≤ 2 ^ 63 - 1 ∧ (x.den : Int) ≤ 2 ^ 63 - 1) →
        ∃ f : Failure, toValue p cs = .error f ∧ f.kind = .fractionOverflow)) ∧
    (BeyondText cs →
      4281 < k ∧
      ((k : Int) ≤ p.exactPlaces → ∃ digits : Option Nat, toValue p cs = .error (.integerLength digits))) ∧
    (wordDigits < digitsBefore cs →
      ¬ (x.num ≤ 2 ^ 63 - 1 ∧ (x.den : Int) ≤ 2 ^ 63 - 1)) ∧
    (¬ longestInteger < significantDigits cs → ∀ q : Rational,
      toRational cs = .ok q ↔
        Rational.ofParts (digitsValue (whole cs ++ fraction cs)) (tenPow k) = .ok q) ∧
    ∀ m : Nat, toValue p (List.replicate m '0' ++ cs) = toValue p cs := by
  obtain ⟨hliteral, rfl, rfl⟩ := writes_iff.mp h
  have hvalue := toValue_of_isNumeral hscale (isNumeral_of_isLiteral hliteral)
  have hscale' : (p.scale.toNat : Int) = p.scale :=
    Int.toNat_of_nonneg (by omega)
  rw [← fitsWords_toRat_iff]
  refine ⟨?_, ?_, ?_, ?_, toRational_eq_ok_iff hliteral, toValue_replicate_zero p hliteral⟩
  · intro hfine
    rw [if_pos hfine] at hvalue
    refine ⟨_, _, hvalue, hscale', rfl, toRat_toDecimal hliteral, ?_⟩
    rw [toDecimal, dropLineEnd_of_not_mem (lineEnd_not_mem hliteral)]
  · intro hexact hlimit
    rw [if_neg (Int.not_lt.mpr hexact)] at hvalue
    constructor
    · intro hfits
      obtain ⟨q, hq, hnumber⟩ := Rational.ofRat_of_fits hfits
      rw [toRational_of_fits hliteral hlimit hfits, hq] at hvalue
      exact ⟨_, q, hvalue, hscale', rfl, by rw [← hnumber]; rfl, by rw [← hnumber]; rfl⟩
    · intro hfits
      obtain ⟨f, hf, hkind⟩ := toRational_of_not_fits hliteral hlimit hfits
      rw [hf] at hvalue
      exact ⟨f, hvalue, hkind⟩
  · intro hlimit
    refine ⟨Nat.not_le.mp (mt not_beyondText (not_not.mpr hlimit)), ?_⟩
    intro hexact
    exact MeetsTextLimit.toValue_eq hscale ⟨hliteral, hexact, hlimit⟩
  · intro hbefore hfits
    exact not_fits_of_wordDigits_lt hliteral hbefore hfits

/-- Twenty-two digits before the point and eighteen after it: the number is the greatest word. -/
theorem toValue_of_writes_greatest :
    ∃ (v : Value) (q : Rational),
      Writes "0009223372036854775807.000000000000000000".toList 18 9223372036854775807 ∧
      toValue ⟨10, 18⟩ "0009223372036854775807.000000000000000000".toList = .ok v ∧
      v.number = .exact q ∧
      q.num = 9223372036854775807 ∧
      q.den = 1 := by
  have hdigits : Digits "0009223372036854775807".toList := by
    simp [Digits]
  have hplaces : Digits "000000000000000000".toList := by
    simp [Digits]
  have hwhole : digitsValue "0009223372036854775807".toList = 9223372036854775807 := by
    simp [digitsValue, Nat.ofDigitChars_cons]
  have hfraction : digitsValue "000000000000000000".toList = 0 := by
    simp [digitsValue, Nat.ofDigitChars_cons]
  have hwrites :
      Writes "0009223372036854775807.000000000000000000".toList 18 9223372036854775807 := by
    have hpointed := Writes.pointed (by simp) hdigits hplaces
    rw [hwhole, hfraction, Nat.cast_zero, zero_div, add_zero] at hpointed
    exact hpointed
  obtain ⟨-, hexact, -⟩ := toValue_of_writes hwrites (p := ⟨10, 18⟩) (by decide)
  obtain ⟨v, q, hvalue, -, hnumber, hnum, hden⟩ :=
    (hexact (by decide) (not_beyondText (by decide))).1 ⟨by rw [Rat.num_ofNat]; decide, by rw [Rat.den_ofNat]; decide⟩
  exact ⟨v, q, hwrites, hvalue, hnumber, by rw [hnum, Rat.num_ofNat], by rw [hden, Rat.den_ofNat]⟩

end Numeral
end Reckoner
