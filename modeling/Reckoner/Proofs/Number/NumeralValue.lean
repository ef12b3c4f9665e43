import Reckoner.Proofs.Number.IntegerTexts
import Reckoner.Proofs.Number.NumeralGrammar

/-!
# The numbers of numerals

A numeral writes the number of its whole part plus the number of its fraction over a power of ten.
An exact numeral is read from all its digits without the zeros they start with, and a numeral with
too many of them before its point is refused before it is read.

**Results.**
* `digitsValue_append`, `digitsValue_significant`: the number of a run of digits.
* `pow_le_digitsValue`: the number of a run without zeros at its start is as large as its length.
* `toRational_of_isLiteral`, `not_fits_of_wordDigits_lt`: the early refusal meets only numerals whose
  number does not fit, and every other numeral is read as the rational of its number, if its digits are
  few enough to be read.
* `toValue_of_isNumeral`: the value of a numeral.
-/

namespace Reckoner
namespace Numeral

/-- The number that a numeral writes. -/
def toRat (cs : List Char) : ℚ :=
  digitsValue (whole cs) + digitsValue (fraction cs) / 10 ^ (fraction cs).length

theorem toRat_of_digits
    {ds : List Char}
    (h : Digits ds) :
    toRat ds = digitsValue ds := by
  simp [toRat, whole_of_digits h, fraction_of_digits h, digitsValue]

theorem toRat_append_point
    {ds : List Char}
    (h : Digits ds)
    (es : List Char) :
    toRat (ds ++ '.' :: es) = digitsValue ds + digitsValue es / 10 ^ es.length := by
  rw [toRat, whole_append_point h, fraction_append_point h]

/-- The digits before and after the point of a numeral. -/
theorem digits_of_isLiteral
    {cs : List Char}
    (h : IsLiteral cs) :
    Digits (whole cs ++ fraction cs) ∧ whole cs ++ fraction cs ≠ [] := by
  have hplain := (isPlain_iff_isLiteral cs).mpr h
  simp only [isPlain, Bool.and_eq_true, List.all_eq_true, Bool.not_eq_true',
    List.isEmpty_eq_false_iff] at hplain
  obtain ⟨⟨hwhole, hfraction⟩, hsome⟩ := hplain
  refine ⟨?_, hsome⟩
  intro c hc
  rcases List.mem_append.mp hc with hc | hc
  · exact hwhole c hc
  · exact hfraction c hc

section Runs

/-- The number of two joined runs of digits. -/
theorem digitsValue_append
    (ds es : List Char) :
    digitsValue (ds ++ es) = digitsValue ds * 10 ^ es.length + digitsValue es := by
  unfold digitsValue
  rw [Nat.ofDigitChars_append, Nat.ofDigitChars_eq_ofDigitChars_zero, Nat.mul_comm]

theorem digitsValue_cons
    (d : Char)
    (ds : List Char) :
    digitsValue (d :: ds) = (d.toNat - '0'.toNat) * 10 ^ ds.length + digitsValue ds := by
  have happend := digitsValue_append [d] ds
  have hone : digitsValue [d] = d.toNat - '0'.toNat := by
    simp [digitsValue, Nat.ofDigitChars_cons]
  rw [hone] at happend
  exact happend

/-- Zeros at the start of a run do not count. -/
theorem digitsValue_dropWhile
    (ds : List Char) :
    digitsValue (ds.dropWhile (· == '0')) = digitsValue ds := by
  induction ds with
  | nil =>
      rfl
  | cons d ds ih =>
      by_cases hd : d = '0'
      · subst hd
        rw [List.dropWhile_cons_of_pos (by decide), ih, digitsValue_cons]
        simp
      · rw [List.dropWhile_cons_of_neg (by simpa using hd)]

theorem digitsValue_significant
    (ds : List Char) :
    digitsValue (significant ds) = digitsValue ds := by
  rw [← digitsValue_dropWhile ds]
  unfold significant
  split
  · next h =>
      rw [h]
      rfl
  · rfl

theorem significant_ne_nil
    (ds : List Char) :
    significant ds ≠ [] := by
  unfold significant
  split
  · simp
  · assumption

theorem digits_significant
    {ds : List Char}
    (h : Digits ds) :
    Digits (significant ds) := by
  unfold significant
  split
  · intro c hc
    rw [List.mem_singleton.mp hc]
    rfl
  · intro c hc
    exact h c ((List.dropWhile_sublist _).mem hc)

/-- A run of more than one digit that starts with no zero is at least a power of ten. -/
theorem pow_le_digitsValue
    {ds : List Char}
    (h : Digits ds)
    (hlength : 1 < (significant ds).length) :
    10 ^ ((significant ds).length - 1) ≤ digitsValue ds := by
  rw [← digitsValue_significant]
  cases hrest : ds.dropWhile (· == '0') with
  | nil =>
      have hzero : significant ds = ['0'] := by
        simp [significant, hrest]
      rw [hzero] at hlength
      simp at hlength
  | cons d rest =>
      have hds : significant ds = d :: rest := by
        simp [significant, hrest]
      have hzero : d ≠ '0' := by
        have hhead := List.head?_dropWhile_not (· == '0') ds
        rw [hrest] at hhead
        simpa using hhead
      have hdigit : d.isDigit = true := by
        have hmem : d ∈ significant ds := by
          simp [hds]
        exact digits_significant h d hmem
      have hone : 1 ≤ d.toNat - '0'.toNat := by
        have hlow : 48 ≤ d.toNat := by
          simp only [Char.isDigit, ge_iff_le, Bool.and_eq_true, decide_eq_true_eq,
            UInt32.le_iff_toNat_le] at hdigit
          exact hdigit.1
        have hne : d.toNat ≠ 48 := by
          intro heq
          exact hzero (Char.toNat_inj.mp heq)
        show 1 ≤ d.toNat - 48
        omega
      rw [hds, digitsValue_cons, List.length_cons, Nat.add_sub_cancel]
      calc 10 ^ rest.length
          = 1 * 10 ^ rest.length := (Nat.one_mul _).symm
        _ ≤ (d.toNat - '0'.toNat) * 10 ^ rest.length := Nat.mul_le_mul_right _ hone
        _ ≤ _ := Nat.le_add_right _ _

/-- A run of digits is read as its number, unless there are too many of them. -/
theorem readInteger_of_digits
    {ds : List Char}
    (h : Digits ds)
    (hne : ds ≠ []) :
    readInteger ds =
      if longestInteger < ds.length then .error (.integerLength (some ds.length))
      else .ok (digitsValue ds) := by
  have hline : '\n' ∉ ds := fun hmem => absurd (h '\n' hmem) (by decide)
  rw [readInteger, dropLineEnd_of_not_mem hline]
  cases ds with
  | nil =>
      exact absurd rfl hne
  | cons d ds =>
      rfl

end Runs

/-- The number of a numeral over the power of ten of its places. -/
theorem toRat_eq_div
    (cs : List Char) :
    toRat cs =
      ((digitsValue (whole cs ++ fraction cs) : Int) : ℚ) /
        ((tenPow (fraction cs).length : Int) : ℚ) := by
  have hpow : (10 : ℚ) ^ (fraction cs).length ≠ 0 :=
    pow_ne_zero _ (by norm_num)
  rw [toRat, digitsValue_append]
  push_cast
  rw [cast_tenPow, add_div, mul_div_cancel_right₀ _ hpow]

/-- The digits of a numeral without the zeros at their start. -/
def significantDigits (cs : List Char) : Nat :=
  (significant (whole cs ++ fraction cs)).length

/-- How many of them stand before its point. -/
def digitsBefore (cs : List Char) : Int :=
  (significantDigits cs : Int) - ((fraction cs).length : Int)

/-- An exact numeral is refused for its digits, or read as the rational of its number. -/
theorem toRational_of_isLiteral
    {cs : List Char}
    (h : IsLiteral cs) :
    toRational cs =
      if wordDigits < digitsBefore cs then .error (.numeralRange (digitsBefore cs))
      else if longestInteger < significantDigits cs then
        .error (.integerLength (some (significantDigits cs)))
      else Rational.ofRat (toRat cs) := by
  obtain ⟨hdigits, -⟩ := digits_of_isLiteral h
  have hread :=
    readInteger_of_digits (digits_significant hdigits) (significant_ne_nil _)
  rw [toRat_eq_div, ← Rational.ofParts_eq_ofRat _ (tenPow_ne_zero _)]
  by_cases hbefore : wordDigits < digitsBefore cs
  · rw [if_pos hbefore]
    exact if_pos hbefore
  · rw [if_neg hbefore]
    refine (if_neg hbefore).trans ?_
    rw [hread, digitsValue_significant]
    unfold significantDigits
    split_ifs <;> rfl

/-- A number that is not negative is at most its numerator. -/
theorem le_num
    {x : ℚ}
    (h : 0 ≤ x) :
    x ≤ x.num := by
  have hden : (1 : ℚ) ≤ x.den :=
    Nat.one_le_cast.mpr x.den_pos
  calc x = x * 1 := (mul_one x).symm
    _ ≤ x * x.den := mul_le_mul_of_nonneg_left hden h
    _ = x.num := Rat.mul_den_eq_num x

/-- A numeral that is refused for its digits has a number that does not fit. -/
theorem not_fits_of_wordDigits_lt
    {cs : List Char}
    (h : IsLiteral cs)
    (hbefore : wordDigits < digitsBefore cs) :
    ¬ FitsWords (toRat cs).num (toRat cs).den := by
  obtain ⟨hdigits, -⟩ := digits_of_isLiteral h
  have hlength :
      (fraction cs).length + 20 ≤ (significant (whole cs ++ fraction cs)).length := by
    simp only [wordDigits, digitsBefore, significantDigits] at hbefore
    omega
  have hvalue :
      10 ^ ((fraction cs).length + 19) ≤ digitsValue (whole cs ++ fraction cs) := by
    refine le_trans ?_ (pow_le_digitsValue hdigits (by omega))
    exact Nat.pow_le_pow_right (by decide) (by omega)
  have hlarge : (10 : ℚ) ^ 19 ≤ toRat cs := by
    have hpow : (0 : ℚ) < 10 ^ (fraction cs).length :=
      pow_pos (by norm_num) _
    rw [toRat_eq_div, Int.cast_natCast, Int.cast_natCast, cast_tenPow, le_div_iff₀ hpow, ← pow_add,
      Nat.add_comm]
    exact_mod_cast hvalue
  intro hfits
  have hnonneg : 0 ≤ toRat cs :=
    le_trans (by norm_num) hlarge
  have hnum : (10 : ℚ) ^ 19 ≤ (toRat cs).num :=
    le_trans hlarge (le_num hnonneg)
  have hword : (toRat cs).num ≤ 9223372036854775807 :=
    hfits.2.1
  have : (10 : ℤ) ^ 19 ≤ 9223372036854775807 :=
    le_trans (by exact_mod_cast hnum) hword
  exact absurd this (by norm_num)

/-- A numeral with more places than are exact is a decimal, and any other is the rational that it
writes. -/
theorem toValue_of_isNumeral
    {p : Precision}
    (hscale : 1 ≤ p.scale)
    {cs : List Char}
    (h : isNumeral cs = true) :
    toValue p cs =
      if p.exactPlaces < ((fraction cs).length : Int) then
        .ok ⟨.approximate (toDecimal cs), p.scale.toNat, Int.lt_toNat.mpr hscale⟩
      else (toRational cs).map fun q => ⟨.exact q, p.scale.toNat, Int.lt_toNat.mpr hscale⟩ := by
  have hpos : ¬ p.scale < 1 :=
    Int.not_lt.mpr hscale
  simp only [toValue, h, Bool.not_true, Bool.false_eq_true, if_false, Value.ofDecimal,
    Value.ofRational, Value.ofNumber, dif_neg hpos]
  cases toRational cs <;> rfl

end Numeral
end Reckoner
