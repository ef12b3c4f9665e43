import Reckoner.Proofs.Number.DecimalValue
import Reckoner.Proofs.Number.DigitRuns
import Reckoner.Proofs.Number.NumberText

/-!
# Texts of decimals as numerals

The text of a decimal that is not negative is a numeral of the same number.  Of all numerals of that
number it is the one without zeros at either end, so the decimal that it writes, whatever its form,
has the same text again.

**Results.**
* `toRat_toDecimal`: a numeral and the decimal that it writes have one number.
* `plain_eq_of_places`: plain notation of a whole part and a fraction that ends in no zero.
* `isLiteral_text`, `toRat_text`: the text of a decimal is a numeral, and its number is the same.
* `text_toDecimal_text`: the decimal of this numeral has the same text.
-/

namespace Reckoner

theorem tenPow_eq
    (n : Nat) :
    tenPow n = 10 ^ n := by
  rfl

namespace Numeral

/-- The decimal that a numeral writes has its number. -/
theorem toRat_toDecimal
    {cs : List Char}
    (h : IsLiteral cs) :
    (toDecimal cs).toRat = toRat cs := by
  rw [toRat_eq_div, toDecimal, dropLineEnd_of_not_mem (lineEnd_not_mem h), Decimal.toRat]
  simp [Decimal.signed, zpow_neg, div_eq_mul_inv]

end Numeral

namespace Decimal

open Numeral

section FinalZeros

variable {ds : List Char}

/-- Only zeros are dropped from the end. -/
theorem dropFinalZeros_append_replicate
    (ds : List Char) :
    ∃ k : Nat, dropFinalZeros ds ++ List.replicate k '0' = ds := by
  refine ⟨(ds.reverse.takeWhile (· == '0')).length, ?_⟩
  have hzeros :
      (ds.reverse.takeWhile (· == '0')).reverse =
        List.replicate (ds.reverse.takeWhile (· == '0')).length '0' := by
    rw [List.eq_replicate_iff]
    refine ⟨List.length_reverse, ?_⟩
    intro c hc
    simpa using List.mem_takeWhile_imp (List.mem_reverse.mp hc)
  rw [← hzeros, dropFinalZeros, ← List.reverse_append, List.takeWhile_append_dropWhile,
    List.reverse_reverse]

/-- No zero is left at the end. -/
theorem getLast?_dropFinalZeros
    (ds : List Char) :
    (dropFinalZeros ds).getLast? ≠ some '0' := by
  rw [dropFinalZeros, List.getLast?_reverse]
  have hhead := List.head?_dropWhile_not (· == '0') ds.reverse
  intro hlast
  simp [hlast] at hhead

/-- Nothing is dropped where no zero is at the end. -/
theorem dropFinalZeros_of_getLast?
    (h : ds.getLast? ≠ some '0') :
    dropFinalZeros ds = ds := by
  have hhead : ds.reverse.dropWhile (· == '0') = ds.reverse := by
    rw [List.dropWhile_eq_self_iff]
    intro hpos hzero
    refine h ?_
    rw [← List.head?_reverse, List.head?_eq_getElem?]
    simpa [List.getElem?_eq_getElem hpos] using hzero
  rw [dropFinalZeros, hhead, List.reverse_reverse]

end FinalZeros

section Padding

variable {width n : Nat}

/-- Padded digits are digits. -/
theorem digits_padDigits
    (width n : Nat) :
    Digits (padDigits width n) := by
  intro c hc
  rcases List.mem_append.mp hc with hzero | hdigit
  · rw [(List.mem_replicate.mp hzero).2]
    rfl
  · exact digits_toDigits n c hdigit

theorem digitsValue_padDigits
    (width n : Nat) :
    digitsValue (padDigits width n) = n := by
  simp [padDigits, digitsValue_append]

/-- A number below the power of ten of a width is padded to that width. -/
theorem length_padDigits
    (hwidth : 0 < width)
    (h : n < 10 ^ width) :
    (padDigits width n).length = width := by
  have hlength : (Nat.toDigits 10 n).length ≤ width :=
    (Nat.length_toDigits_le_iff (by decide) hwidth).mpr h
  simp only [padDigits, List.length_append, List.length_replicate]
  omega

/-- A run of digits is its number padded to its length. -/
theorem padDigits_digitsValue
    {ds : List Char}
    (hne : ds ≠ [])
    (h : Digits ds) :
    padDigits ds.length (digitsValue ds) = ds := by
  have hlength := length_padDigits (List.length_pos_iff.mpr hne) (digitsValue_lt_pow h)
  exact eq_of_digitsValue_eq (digits_padDigits _ _) h hlength (digitsValue_padDigits _ _)

end Padding

/-- The digits after the point in plain notation. -/
def plainPlaces (n places : Nat) : List Char :=
  dropFinalZeros (padDigits places (n % tenPow places))

section Plain

variable (n places : Nat)

theorem plain_eq :
    plain n places =
      Nat.toDigits 10 (n / tenPow places) ++
        (if (plainPlaces n places).isEmpty then [] else '.' :: plainPlaces n places) := by
  rfl

theorem digits_plainPlaces :
    Digits (plainPlaces n places) := by
  obtain ⟨k, hk⟩ := dropFinalZeros_append_replicate (padDigits places (n % tenPow places))
  intro c hc
  refine digits_padDigits places (n % tenPow places) c ?_
  rw [← hk]
  exact List.mem_append_left _ hc

theorem whole_plain :
    whole (plain n places) = Nat.toDigits 10 (n / tenPow places) := by
  rw [plain_eq]
  split
  · rw [List.append_nil, whole_of_digits (digits_toDigits _)]
  · rw [whole_append_point (digits_toDigits _)]

theorem fraction_plain :
    fraction (plain n places) = plainPlaces n places := by
  rw [plain_eq]
  split
  · next hnone =>
      rw [List.append_nil, fraction_of_digits (digits_toDigits _), List.isEmpty_iff.mp hnone]
  · rw [fraction_append_point (digits_toDigits _)]

theorem isLiteral_plain :
    IsLiteral (plain n places) := by
  rw [plain_eq]
  split
  · rw [List.append_nil]
    exact .integer Nat.toDigits_ne_nil (digits_toDigits _)
  · exact .pointed Nat.toDigits_ne_nil (digits_toDigits _) (digits_plainPlaces _ _)

/-- The digits after the point write the remainder, over the power of ten of their number. -/
theorem digitsValue_plainPlaces :
    (digitsValue (plainPlaces n places) : ℚ) / 10 ^ (plainPlaces n places).length =
      (n % 10 ^ places : Nat) / 10 ^ places := by
  obtain ⟨k, hk⟩ := dropFinalZeros_append_replicate (padDigits places (n % tenPow places))
  change plainPlaces n places ++ List.replicate k '0' = _ at hk
  rw [tenPow_eq] at hk
  have hvalue : digitsValue (plainPlaces n places) * 10 ^ k = n % 10 ^ places := by
    rw [← digitsValue_padDigits places (n % 10 ^ places), ← hk, digitsValue_append_replicate_zero]
  by_cases hplaces : places = 0
  · -- Without places the padding has one digit more than is asked for, and it is a zero.
    subst hplaces
    have hzero : digitsValue (plainPlaces n 0) = 0 := by
      simpa [Nat.mod_one] using hvalue
    simp [hzero, Nat.mod_one]
  · have hlength : places = (plainPlaces n places).length + k := by
      have hpad := congrArg List.length hk
      rwa [length_padDigits (Nat.pos_of_ne_zero hplaces) (Nat.mod_lt _ (Nat.pow_pos (by decide))),
        List.length_append, List.length_replicate, eq_comm] at hpad
    have hpow : (10 : ℚ) ^ places = 10 ^ (plainPlaces n places).length * 10 ^ k := by
      rw [← pow_add, ← hlength]
    have hten : (10 : ℚ) ^ k ≠ 0 :=
      pow_ne_zero _ (by norm_num)
    rw [hpow, ← hvalue]
    push_cast
    rw [mul_div_mul_right _ _ hten]

/-- Plain notation is a numeral of its number. -/
theorem toRat_plain :
    Numeral.toRat (plain n places) = (n : ℚ) / 10 ^ places := by
  have hpow : (10 : ℚ) ^ places ≠ 0 :=
    pow_ne_zero _ (by norm_num)
  have hsplit : ((n / 10 ^ places : Nat) : ℚ) * 10 ^ places + (n % 10 ^ places : Nat) = n := by
    exact_mod_cast Nat.div_add_mod' n (10 ^ places)
  rw [Numeral.toRat, whole_plain, fraction_plain, digitsValue_plainPlaces, digitsValue_toDigits,
    tenPow_eq, ← hsplit, add_div, mul_div_cancel_right₀ _ hpow]

/-- Zero has one digit. -/
theorem plain_zero :
    plain 0 places = ['0'] := by
  have hnone : plainPlaces 0 places = [] := by
    simp [plainPlaces, padDigits, dropFinalZeros, ← List.replicate_succ']
  simp [plain_eq, hnone]

end Plain

/-- Digits without zeros at either end, a point between them, are plain notation. -/
theorem plain_eq_of_places
    {w : Nat}
    {es : List Char}
    (hes : Digits es)
    (hlast : es.getLast? ≠ some '0') :
    plain (digitsValue (Nat.toDigits 10 w ++ es)) es.length =
      Nat.toDigits 10 w ++ (if es.isEmpty then [] else '.' :: es) := by
  have hlt := digitsValue_lt_pow hes
  have hdiv : digitsValue (Nat.toDigits 10 w ++ es) / tenPow es.length = w := by
    rw [digitsValue_append, digitsValue_toDigits, tenPow_eq, Nat.mul_comm,
      Nat.mul_add_div (Nat.pow_pos (by decide)), Nat.div_eq_of_lt hlt, Nat.add_zero]
  have hmod : digitsValue (Nat.toDigits 10 w ++ es) % tenPow es.length = digitsValue es := by
    rw [digitsValue_append, digitsValue_toDigits, tenPow_eq, Nat.mul_comm, Nat.mul_add_mod,
      Nat.mod_eq_of_lt hlt]
  have hplaces : plainPlaces (digitsValue (Nat.toDigits 10 w ++ es)) es.length = es := by
    rw [plainPlaces, hmod]
    by_cases hnil : es = []
    · rw [hnil]
      decide
    · rw [padDigits_digitsValue hnil hes, dropFinalZeros_of_getLast? hlast]
  rw [plain_eq, hdiv, hplaces]

section Text

variable {d : Decimal}

theorem toRat_eq_div :
    d.toRat = (d.signed : ℚ) * 10 ^ d.exponent.toNat / 10 ^ d.places := by
  have hexponent : d.exponent = (d.exponent.toNat : Int) - (d.places : Int) := by
    simp only [places]
    omega
  rw [toRat, mul_div_assoc, ← zpow_natCast, ← zpow_natCast, ← zpow_sub₀ (by norm_num), ← hexponent]

/-- A decimal that is not negative has no sign, unless it is zero. -/
theorem signed_of_nonneg
    (h : 0 ≤ d.toRat) :
    d.signed = d.coefficient ∧ (d.coefficient = 0 ∨ d.negative = false) := by
  have hpow : (0 : ℚ) < 10 ^ d.exponent :=
    zpow_pos (by norm_num) _
  have hsigned : 0 ≤ d.signed := by
    have := nonneg_of_mul_nonneg_left h hpow
    exact_mod_cast this
  unfold signed at hsigned ⊢
  cases hnegative : d.negative with
  | false =>
      simp
  | true =>
      rw [hnegative, if_pos rfl] at hsigned
      have hzero : d.coefficient = 0 := by
        omega
      simp [hzero]

/-- A decimal that is not negative is written without a sign. -/
theorem toList_text
    (h : 0 ≤ d.toRat) :
    d.text.toList = plain (d.coefficient * tenPow d.exponent.toNat) d.places := by
  by_cases hzero : d.coefficient = 0
  · have htext : d.text = "0" := by
      simp [text, isZero, hzero]
    rw [htext, hzero, Nat.zero_mul, plain_zero]
    rfl
  · have hpositive : d.negative = false :=
      (signed_of_nonneg h).2.resolve_left hzero
    simp [text, isZero, hzero, hpositive]

/-- A decimal below zero has a sign. -/
theorem signed_of_neg
    (h : d.toRat < 0) :
    d.signed = -(d.coefficient : Int) ∧ d.coefficient ≠ 0 ∧ d.negative = true := by
  have hzero : d.coefficient ≠ 0 := by
    intro hcoefficient
    rw [toRat, (signed_eq_zero_iff d).mpr hcoefficient] at h
    simp at h
  cases hnegative : d.negative with
  | true =>
      simp [signed, hnegative, hzero]
  | false =>
      have hnonneg : (0 : ℚ) ≤ d.coefficient * 10 ^ d.exponent :=
        mul_nonneg (Nat.cast_nonneg _) (zpow_nonneg (by norm_num) _)
      rw [toRat, signed, hnegative, if_neg (by simp), Int.cast_natCast] at h
      exact absurd h (not_lt.mpr hnonneg)

/-- It is written with the sign before its magnitude. -/
theorem toList_text_of_neg
    (h : d.toRat < 0) :
    d.text.toList = '-' :: plain (d.coefficient * tenPow d.exponent.toNat) d.places := by
  obtain ⟨-, hzero, hnegative⟩ := signed_of_neg h
  simp [text, isZero, hzero, hnegative]

/-- The text of a decimal that is not negative is a numeral. -/
theorem isLiteral_text
    (h : 0 ≤ d.toRat) :
    IsLiteral d.text.toList := by
  rw [toList_text h]
  exact isLiteral_plain _ _

/-- So is the text of a negative one without its sign. -/
theorem exists_isLiteral_of_neg
    (h : d.toRat < 0) :
    ∃ cs : List Char, d.text.toList = '-' :: cs ∧ IsLiteral cs :=
  ⟨_, toList_text_of_neg h, isLiteral_plain _ _⟩

/-- The numeral has the number of the decimal. -/
theorem toRat_text
    (h : 0 ≤ d.toRat) :
    Numeral.toRat d.text.toList = d.toRat := by
  rw [toList_text h, toRat_plain, toRat_eq_div, (signed_of_nonneg h).1]
  push_cast
  rw [cast_tenPow]

/-- It ends in no zero that could be left out. -/
theorem getLast?_fraction_text
    (h : 0 ≤ d.toRat) :
    (fraction d.text.toList).getLast? ≠ some '0' := by
  rw [toList_text h, fraction_plain]
  exact getLast?_dropFinalZeros _

/-- The decimal that the numeral writes has the same text. -/
theorem text_toDecimal_text
    (h : 0 ≤ d.toRat) :
    (Numeral.toDecimal d.text.toList).text = d.text := by
  have hliteral := isLiteral_text h
  have hnonneg : 0 ≤ (Numeral.toDecimal d.text.toList).toRat := by
    rwa [toRat_toDecimal hliteral, toRat_text h]
  refine String.toList_inj.mp ?_
  rw [toList_text hnonneg, Numeral.toDecimal, dropLineEnd_of_not_mem (lineEnd_not_mem hliteral)]
  simp only [places, neg_neg, Int.toNat_natCast]
  rw [toList_text h, whole_plain, fraction_plain]
  simp only [Int.toNat_neg_natCast, tenPow_eq, pow_zero, Nat.mul_one]
  exact plain_eq_of_places (digits_plainPlaces _ _) (getLast?_dropFinalZeros _)

end Text

end Decimal
end Reckoner
