import Reckoner.Proofs.Number.DigitRuns
import Mathlib.Data.Nat.Prime.Basic

/-!
# The failures of numerals

An exact numeral is refused because its number does not fit, or because an integer has too many digits
for a text.  The digits before the point are counted first, so the second can happen only to a numeral of
thousands of places: either all its digits are too many to be read, or the denominator of its number in
lowest terms is too long to be told.

**Results.**
* `toRational_of_fits`, `toRational_of_not_fits`, `toRational_of_beyondText`: what an exact numeral
  comes to.
* `lt_places_of_beyondText`: a numeral meets the limit of texts only with thousands of places.
* `not_beyondText_of_last`: one that ends in no zero meets it only if its number does not fit.
* `toRational_failure`, `toRational_failure_kind`, `toValue_failure`: the failures of a numeral.
-/

namespace Reckoner
namespace Numeral

/-- Whether an exact numeral meets the limit of texts: it has too many digits to be read, or in lowest
terms a denominator of too many digits to be written. -/
def BeyondText (cs : List Char) : Prop :=
  digitsBefore cs ≤ wordDigits ∧
    (longestInteger < significantDigits cs ∨ ¬ IsWritable (toRat cs).den)

instance (cs : List Char) : Decidable (BeyondText cs) := by
  unfold BeyondText
  infer_instance

section Limit

variable {cs : List Char}

/-- The numerator of a numeral can be written, if its digits can be read. -/
theorem isWritable_digitsValue
    (h : IsLiteral cs)
    (hlength : significantDigits cs ≤ longestInteger) :
    IsWritable (digitsValue (whole cs ++ fraction cs)) := by
  obtain ⟨hdigits, -⟩ := digits_of_isLiteral h
  rw [IsWritable, Int.natAbs_natCast, ← digitsValue_significant]
  exact lt_of_lt_of_le (digitsValue_lt_pow (digits_significant hdigits))
    (Nat.pow_le_pow_right (by decide) hlength)

/-- So the denominator alone decides whether the lowest terms can be written. -/
theorem writableParts_toRat
    (h : IsLiteral cs)
    (hlength : significantDigits cs ≤ longestInteger)
    (hden : IsWritable (toRat cs).den) :
    WritableParts (toRat cs) := by
  refine ⟨isWritable_of_le ?_ (isWritable_digitsValue h hlength), hden⟩
  rw [toRat_eq_div, Rational.num_div_eq_reducedNum (tenPow_ne_zero _), Rational.natAbs_reducedNum]
  exact Nat.div_le_self _ _

theorem isWritable_tenPow
    {n : Nat}
    (h : n < longestInteger) :
    IsWritable (tenPow n) := by
  rw [IsWritable, Int.natAbs_natCast]
  exact Nat.pow_lt_pow_right (by decide) h

/-- A numeral that meets the limit of texts has thousands of places. -/
theorem lt_places_of_beyondText
    (h : BeyondText cs) :
    longestInteger < (fraction cs).length + 19 := by
  obtain ⟨hbefore, hlong | hden⟩ := h
  · unfold digitsBefore wordDigits at hbefore
    omega
  · by_contra hplaces
    have hpow : IsWritable (tenPow (fraction cs).length) :=
      isWritable_tenPow (by omega)
    refine hden (isWritable_of_le ?_ hpow)
    rw [toRat_eq_div, Rational.den_div_eq_reducedDen (tenPow_ne_zero _)]
    exact Nat.div_le_self _ _

/-- So it is never met with fewer exact places. -/
theorem not_beyondText
    (hplaces : (fraction cs).length ≤ 4281) :
    ¬ BeyondText cs := by
  intro h
  have hlong := lt_places_of_beyondText h
  rw [longestInteger_eq] at hlong
  omega

/-- A numeral that is read exactly with some precision and meets the limit of texts. -/
structure MeetsTextLimit
    (p : Precision)
    (cs : List Char) : Prop where
  isLiteral : IsLiteral cs
  isExact : ((fraction cs).length : Int) ≤ p.exactPlaces
  beyondText : BeyondText cs

/-- There is none with few exact places. -/
theorem MeetsTextLimit.lt_exactPlaces
    {p : Precision}
    (h : MeetsTextLimit p cs) :
    4281 < p.exactPlaces := by
  have hplaces := mt not_beyondText (not_not.mpr h.beyondText)
  have hexact := h.isExact
  omega

end Limit

section Rationals

variable {cs : List Char}

/-- A numeral that meets the limit of texts is refused for it. -/
theorem toRational_of_beyondText
    (h : IsLiteral cs)
    (hlimit : BeyondText cs) :
    ∃ digits : Option Nat, toRational cs = .error (.integerLength digits) := by
  obtain ⟨hbefore, hlong⟩ := hlimit
  rw [toRational_of_isLiteral h, if_neg (Int.not_lt.mpr hbefore)]
  split_ifs with hread
  · exact ⟨_, rfl⟩
  · exact ⟨none, Rational.ofRat_of_not_writable fun hparts => hlong.elim hread fun hden => hden hparts.2⟩

/-- Any other numeral whose number fits is read as the rational of its number. -/
theorem toRational_of_fits
    (h : IsLiteral cs)
    (hlimit : ¬ BeyondText cs)
    (hfits : FitsWords (toRat cs).num (toRat cs).den) :
    toRational cs = Rational.ofRat (toRat cs) := by
  have hbefore : ¬ wordDigits < digitsBefore cs :=
    fun hbefore => not_fits_of_wordDigits_lt h hbefore hfits
  have hlength : ¬ longestInteger < significantDigits cs :=
    fun hlong => hlimit ⟨Int.not_lt.mp hbefore, .inl hlong⟩
  rw [toRational_of_isLiteral h, if_neg hbefore, if_neg hlength]

/-- And if the number does not fit, it is refused for its range. -/
theorem toRational_of_not_fits
    (h : IsLiteral cs)
    (hlimit : ¬ BeyondText cs)
    (hfits : ¬ FitsWords (toRat cs).num (toRat cs).den) :
    ∃ f : Failure, toRational cs = .error f ∧ f.kind = .fractionOverflow := by
  rw [toRational_of_isLiteral h]
  split_ifs with hbefore hlength
  · exact ⟨_, rfl, rfl⟩
  · exact absurd ⟨Int.not_lt.mp hbefore, .inl hlength⟩ hlimit
  · have hden : IsWritable (toRat cs).den :=
      not_not.mp fun hden => hlimit ⟨Int.not_lt.mp hbefore, .inr hden⟩
    exact ⟨_, Rational.ofRat_of_writable hfits (writableParts_toRat h (Nat.not_lt.mp hlength) hden), rfl⟩

/-- An exact numeral fails for the range of its number, or for the limit of texts where it meets it. -/
theorem toRational_failure_kind
    (h : IsLiteral cs)
    {f : Failure}
    (hf : toRational cs = .error f) :
    f.kind = .fractionOverflow ∨ BeyondText cs ∧ ∃ digits : Option Nat, f = .integerLength digits := by
  by_cases hlimit : BeyondText cs
  · obtain ⟨digits, hdigits⟩ := toRational_of_beyondText h hlimit
    exact .inr ⟨hlimit, digits, Except.error.inj (hf.symm.trans hdigits)⟩
  · by_cases hfits : FitsWords (toRat cs).num (toRat cs).den
    · obtain ⟨q, hq, -⟩ := Rational.ofRat_of_fits hfits
      cases hf.symm.trans ((toRational_of_fits h hlimit hfits).trans hq)
    · obtain ⟨g, hg, hkind⟩ := toRational_of_not_fits h hlimit hfits
      cases hf.symm.trans hg
      exact .inl hkind

/-- A numeral that is read as a rational is read as its number. -/
theorem toRat_of_toRational
    (h : IsLiteral cs)
    {q : Rational}
    (hq : toRational cs = .ok q) :
    q.toRat = toRat cs := by
  rw [toRational_of_isLiteral h] at hq
  split_ifs at hq
  unfold Rational.ofRat at hq
  split at hq <;> cases hq
  rfl

end Rationals

/-- Digits that cannot be read are told in a few words. -/
theorem readInteger_failure
    {ds : List Char}
    {f : Failure}
    (h : readInteger ds = .error f) :
    f.kind = .invalidArgument ∧ f.Writable := by
  unfold readInteger at h
  split at h
  · cases h
    exact ⟨rfl, trivial⟩
  · split at h <;> cases h
    exact ⟨rfl, trivial⟩

/-- A text that is no rational, numeral or not, is refused in one of two classes, and this can be
told. -/
theorem toRational_failure
    {cs : List Char}
    {f : Failure}
    (h : toRational cs = .error f) :
    (f.kind = .fractionOverflow ∨ f.kind = .invalidArgument) ∧ f.Writable := by
  simp only [toRational] at h
  split at h
  · cases h
    exact ⟨.inl rfl, trivial⟩
  · split at h
    · next hread =>
        cases h
        exact (readInteger_failure hread).imp_left .inr
    · refine ⟨?_, Rational.ofParts_failure_writable h⟩
      rw [Rational.ofParts_eq_ofRat _ (tenPow_ne_zero _), Rational.ofRat_eq_error_iff_range] at h
      rw [h.2]
      exact (Failure.fractionRange _ _).kind_worded

/-- A numeral fails as its rational does. -/
theorem toValue_failure
    {p : Precision}
    (hscale : 1 ≤ p.scale)
    {cs : List Char}
    (h : isNumeral cs = true)
    {f : Failure}
    (hf : toValue p cs = .error f) :
    ((fraction cs).length : Int) ≤ p.exactPlaces ∧ toRational cs = .error f := by
  rw [toValue_of_isNumeral hscale h] at hf
  split at hf
  · cases hf
  · next hexact =>
      refine ⟨Int.not_lt.mp hexact, ?_⟩
      cases hread : toRational cs with
      | error g =>
          rw [hread] at hf
          cases hf
          rfl
      | ok q =>
          rw [hread] at hf
          cases hf

/-- An exact numeral that meets the limit of texts has no value for it. -/
theorem MeetsTextLimit.toValue_eq
    {p : Precision}
    (hscale : 1 ≤ p.scale)
    {cs : List Char}
    (h : MeetsTextLimit p cs) :
    ∃ digits : Option Nat, toValue p cs = .error (.integerLength digits) := by
  obtain ⟨digits, hread⟩ := toRational_of_beyondText h.isLiteral h.beyondText
  refine ⟨digits, ?_⟩
  rw [toValue_of_isNumeral hscale (isNumeral_of_isLiteral h.isLiteral),
    if_neg (Int.not_lt.mpr h.isExact), hread]
  rfl

section FinalZeros

variable {cs : List Char}

/-- A run whose last digit is not zero writes no multiple of ten. -/
theorem not_ten_dvd_digitsValue
    {ds : List Char}
    (h : Digits ds)
    (hne : ds ≠ [])
    (hlast : ds.getLast? ≠ some '0') :
    ¬ 10 ∣ digitsValue ds := by
  obtain ⟨before, d, rfl⟩ := ds.eq_nil_or_concat'.resolve_left hne
  have hdigit : d.isDigit = true :=
    h d (by simp)
  have hone : digitsValue [d] = d.toNat - '0'.toNat := by
    simp [digitsValue, Nat.ofDigitChars_cons]
  have hten := digit_lt_ten hdigit
  have hzero : d.toNat - '0'.toNat ≠ 0 := by
    intro hzero
    have hd : d = '0' := eq_of_digit_eq hdigit rfl (hzero.trans (by decide))
    simp [hd] at hlast
  rw [digitsValue_append, hone, List.length_singleton, pow_one]
  omega

/-- A fraction over a power of ten that is far larger than its denominator in lowest terms has a
numerator that a factor of ten divides. -/
theorem dvd_of_mul_eq_mul_pow
    {q n m d k : Nat}
    (hq : q.Prime)
    (hten : q ∣ 10)
    (h : n * d = m * 10 ^ k)
    (hpos : 0 < d)
    (hlt : d < 2 ^ k) :
    q ∣ n := by
  by_contra hn
  have hcoprime : (q ^ k).Coprime n :=
    (hq.coprime_iff_not_dvd.mpr hn).pow_left k
  have hdvd : q ^ k ∣ n * d :=
    h ▸ (pow_dvd_pow_of_dvd hten k).mul_left m
  have hle : q ^ k ≤ d :=
    Nat.le_of_dvd hpos (hcoprime.dvd_of_dvd_mul_left hdvd)
  have hpow : 2 ^ k ≤ q ^ k :=
    Nat.pow_le_pow_left hq.two_le k
  omega

/-- Without zeros at its end, a numeral whose number fits has few places. -/
theorem not_beyondText_of_last
    (h : IsLiteral cs)
    (hlast : (fraction cs).getLast? ≠ some '0')
    (hfits : FitsWords (toRat cs).num (toRat cs).den) :
    ¬ BeyondText cs := by
  refine not_beyondText ?_
  by_contra hplaces
  obtain ⟨hdigits, -⟩ := digits_of_isLiteral h
  have hne : fraction cs ≠ [] := by
    rintro hnil
    simp [hnil] at hplaces
  have hden : (toRat cs).den < 2 ^ (fraction cs).length := by
    have hword : (toRat cs).den < 2 ^ 64 := by
      have := hfits.2.2
      unfold greatestWord at this
      omega
    exact lt_of_lt_of_le hword (Nat.pow_le_pow_right (by decide) (by omega))
  have hlowest :
      digitsValue (whole cs ++ fraction cs) * (toRat cs).den =
        (toRat cs).num.natAbs * 10 ^ (fraction cs).length := by
    have hmul :=
      Rational.reducedNum_mul (digitsValue (whole cs ++ fraction cs)) (tenPow (fraction cs).length)
    rw [← Rational.num_div_eq_reducedNum (tenPow_ne_zero _),
      ← Rational.den_div_eq_reducedDen (tenPow_ne_zero _), ← toRat_eq_div] at hmul
    have habs := congrArg Int.natAbs hmul
    rw [Int.natAbs_mul, Int.natAbs_mul, Int.natAbs_natCast, Int.natAbs_natCast, Int.natAbs_natCast] at habs
    exact habs.symm
  have htwo := dvd_of_mul_eq_mul_pow Nat.prime_two (by decide) hlowest (toRat cs).den_pos hden
  have hfive := dvd_of_mul_eq_mul_pow Nat.prime_five (by decide) hlowest (toRat cs).den_pos hden
  refine not_ten_dvd_digitsValue hdigits (by simp [hne]) ?_
    (Nat.Coprime.mul_dvd_of_dvd_of_dvd (by decide) htwo hfive)
  rwa [List.getLast?_append_of_ne_nil _ hne]

end FinalZeros

section Long

/-- The numeral of one over a power of ten: its digits are zeros and one last `1`. -/
def fine (n : Nat) : List Char :=
  ['0'] ++ '.' :: (List.replicate n '0' ++ ['1'])

/-- The numeral of one half, with zeros after it. -/
def padded (n : Nat) : List Char :=
  ['0'] ++ '.' :: ('5' :: List.replicate n '0')

variable {n : Nat}

theorem digits_zero :
    Digits ['0'] := by
  simp [Digits]

theorem digits_fine :
    Digits (List.replicate n '0' ++ ['1']) := by
  intro c hc
  rcases List.mem_append.mp hc with hc | hc
  · rw [List.eq_of_mem_replicate hc]
    rfl
  · rw [List.mem_singleton.mp hc]
    rfl

theorem digits_padded :
    Digits ('5' :: List.replicate n '0') := by
  intro c hc
  rcases List.mem_cons.mp hc with rfl | hc
  · rfl
  · rw [List.eq_of_mem_replicate hc]
    rfl

theorem isLiteral_fine :
    IsLiteral (fine n) :=
  .pointed (by simp) digits_zero digits_fine

theorem isLiteral_padded :
    IsLiteral (padded n) :=
  .pointed (by simp) digits_zero digits_padded

@[simp] theorem length_fraction_fine :
    (fraction (fine n)).length = n + 1 := by
  rw [fine, fraction_append_point digits_zero]
  simp

@[simp] theorem length_fraction_padded :
    (fraction (padded n)).length = n + 1 := by
  rw [padded, fraction_append_point digits_zero]
  simp

theorem toRat_fine :
    toRat (fine n) = ((1 : Int) : ℚ) / ((tenPow (n + 1) : Nat) : Int) := by
  have hone : digitsValue ['1'] = 1 := rfl
  have hzero : digitsValue ['0'] = 0 := rfl
  rw [fine, toRat_append_point digits_zero, digitsValue_append, digitsValue_replicate_zero, hone, hzero,
    Int.cast_natCast, cast_tenPow]
  simp

theorem toRat_padded :
    toRat (padded n) = 1 / 2 := by
  have hzero : digitsValue ['0'] = 0 := rfl
  have hrun : digitsValue ('5' :: List.replicate n '0') = 5 * 10 ^ n :=
    digitsValue_append_replicate_zero ['5'] n
  have hten : (10 : ℚ) ^ n ≠ 0 :=
    pow_ne_zero _ (by norm_num)
  rw [padded, toRat_append_point digits_zero, hzero, hrun, List.length_cons, List.length_replicate,
    pow_succ]
  push_cast
  field_simp
  norm_num

/-- A power of ten as a denominator is too long to be told. -/
theorem beyondText_fine
    (h : longestInteger ≤ n + 1) :
    BeyondText (fine n) := by
  have hdigits : significantDigits (fine n) = 1 := by
    rw [significantDigits, fine, whole_append_point digits_zero, fraction_append_point digits_zero]
    simp [significant]
  refine ⟨?_, .inr ?_⟩
  · rw [digitsBefore, hdigits, wordDigits]
    omega
  · have hcoprime : Nat.Coprime (1 : Int).natAbs ((tenPow (n + 1) : Nat) : Int).natAbs :=
      Nat.coprime_one_left _
    have hden := Rat.den_div_eq_of_coprime (Int.natCast_pos.mpr (tenPow_pos (n + 1))) hcoprime
    rw [toRat_fine, hden, IsWritable]
    exact Nat.not_lt.mpr (Nat.pow_le_pow_right (by decide) h)

/-- Zeros after the last digit of a numeral are read, too. -/
theorem beyondText_padded
    (h : longestInteger ≤ n) :
    BeyondText (padded n) := by
  have hdigits : significantDigits (padded n) = n + 1 := by
    rw [significantDigits, padded, whole_append_point digits_zero, fraction_append_point digits_zero]
    simp [significant]
  refine ⟨?_, .inl ?_⟩
  · rw [digitsBefore, hdigits, length_fraction_padded, wordDigits]
    omega
  · omega

theorem meetsTextLimit_fine
    {p : Precision}
    (h : longestInteger ≤ n + 1)
    (hexact : ((n + 1 : Nat) : Int) ≤ p.exactPlaces) :
    MeetsTextLimit p (fine n) :=
  ⟨isLiteral_fine, by rwa [length_fraction_fine], beyondText_fine h⟩

theorem meetsTextLimit_padded
    {p : Precision}
    (h : longestInteger ≤ n)
    (hexact : ((n + 1 : Nat) : Int) ≤ p.exactPlaces) :
    MeetsTextLimit p (padded n) :=
  ⟨isLiteral_padded, by rwa [length_fraction_padded], beyondText_padded h⟩

end Long

end Numeral
end Reckoner
