import Reckoner.Proofs.Number.NumeralValue

/-!
# Runs of digits

The digits of a number write the number.  They start with no zero, and among the runs of one length no
other writes it.

**Results.**
* `digitsValue_toDigits`, `digitsValue_lt_pow`: the number of a run, and its bound.
* `eq_of_digitsValue_eq`: runs of digits of one length and one value are equal.
* `head_toDigits_ne_zero`: the digits of a number start with no zero.
* `toList_repr_natCast`, `toList_repr_negSucc`: the texts of integers.
* `Rational.toList_text`: the text of a rational.
-/

namespace Reckoner

namespace Numeral

section Runs

variable {ds es : List Char}

theorem digits_toDigits
    (n : Nat) :
    Digits (Nat.toDigits 10 n) := by
  intro c hc
  exact Nat.isDigit_of_mem_toDigits (by decide) (by decide) hc

@[simp] theorem digitsValue_toDigits
    (n : Nat) :
    digitsValue (Nat.toDigits 10 n) = n := by
  simp [digitsValue]

@[simp] theorem digitsValue_replicate_zero
    (k : Nat) :
    digitsValue (List.replicate k '0') = 0 := by
  simp [digitsValue, Nat.ofDigitChars_replicate_zero]

/-- Zeros at the end of a run multiply its number. -/
theorem digitsValue_append_replicate_zero
    (ds : List Char)
    (k : Nat) :
    digitsValue (ds ++ List.replicate k '0') = digitsValue ds * 10 ^ k := by
  simp [digitsValue_append]

theorem digit_lt_ten
    {c : Char}
    (h : c.isDigit = true) :
    c.toNat - '0'.toNat < 10 := by
  simp only [Char.isDigit, ge_iff_le, Bool.and_eq_true, decide_eq_true_eq,
    UInt32.le_iff_toNat_le] at h
  have hhigh : c.toNat ≤ 57 := h.2
  show c.toNat - 48 < 10
  omega

/-- A run of digits is below the power of ten of its length. -/
theorem digitsValue_lt_pow
    (h : Digits ds) :
    digitsValue ds < 10 ^ ds.length := by
  induction ds with
  | nil =>
      decide
  | cons d ds ih =>
      have hd : d.toNat - '0'.toNat < 10 :=
        digit_lt_ten (h d (by simp))
      have hrest := ih fun c hc => h c (by simp [hc])
      rw [digitsValue_cons, List.length_cons, Nat.pow_succ]
      calc (d.toNat - '0'.toNat) * 10 ^ ds.length + digitsValue ds
          < (d.toNat - '0'.toNat) * 10 ^ ds.length + 10 ^ ds.length :=
            Nat.add_lt_add_left hrest _
        _ = (d.toNat - '0'.toNat + 1) * 10 ^ ds.length := (Nat.succ_mul _ _).symm
        _ ≤ 10 * 10 ^ ds.length := Nat.mul_le_mul_right _ hd
        _ = 10 ^ ds.length * 10 := Nat.mul_comm _ _

theorem eq_of_digit_eq
    {c d : Char}
    (hc : c.isDigit = true)
    (hd : d.isDigit = true)
    (h : c.toNat - '0'.toNat = d.toNat - '0'.toNat) :
    c = d := by
  simp only [Char.isDigit, ge_iff_le, Bool.and_eq_true, decide_eq_true_eq,
    UInt32.le_iff_toNat_le] at hc hd
  have hclow : 48 ≤ c.toNat := hc.1
  have hdlow : 48 ≤ d.toNat := hd.1
  have hsame : c.toNat - 48 = d.toNat - 48 := h
  exact Char.toNat_inj.mp (by omega)

/-- Two runs of digits of one length write one number only if they are equal. -/
theorem eq_of_digitsValue_eq
    (hds : Digits ds)
    (hes : Digits es)
    (hlength : ds.length = es.length)
    (hvalue : digitsValue ds = digitsValue es) :
    ds = es := by
  induction ds generalizing es with
  | nil =>
      exact (List.length_eq_zero_iff.mp hlength.symm).symm
  | cons d ds ih =>
      cases es with
      | nil =>
          cases hlength
      | cons e es =>
          have hlength' : ds.length = es.length := by
            simpa using hlength
          have hds' : Digits ds :=
            fun c hc => hds c (by simp [hc])
          have hes' : Digits es :=
            fun c hc => hes c (by simp [hc])
          have hdlt := digitsValue_lt_pow hds'
          have helt := digitsValue_lt_pow hes'
          rw [digitsValue_cons, digitsValue_cons, hlength'] at hvalue
          rw [hlength'] at hdlt
          -- The first digits are the quotients by the power of ten, and the rests are the remainders.
          have hfirst : d.toNat - '0'.toNat = e.toNat - '0'.toNat := by
            have hdiv := congrArg (· / 10 ^ es.length) hvalue
            simpa [Nat.mul_add_div, Nat.div_eq_of_lt, hdlt, helt, Nat.mul_comm] using hdiv
          have hrest : digitsValue ds = digitsValue es := by
            rw [hfirst] at hvalue
            exact Nat.add_left_cancel hvalue
          rw [eq_of_digit_eq (hds d (by simp)) (hes e (by simp)) hfirst, ih hds' hes' hlength' hrest]

/-- The digits of a number do not start with a zero, unless it is the only one. -/
theorem head_toDigits_ne_zero
    {n : Nat}
    {c : Char}
    {cs : List Char}
    (h : Nat.toDigits 10 n = c :: cs)
    (hcs : cs ≠ []) :
    c ≠ '0' := by
  rintro rfl
  have hdigits : Digits cs := fun d hd => digits_toDigits n d (by simp [h, hd])
  have hvalue : n = digitsValue cs := by
    rw [← digitsValue_toDigits n, h, digitsValue_cons]
    simp
  have hlength : (Nat.toDigits 10 n).length ≤ cs.length :=
    (Nat.length_toDigits_le_iff (by decide) (List.length_pos_iff.mpr hcs)).mpr
      (hvalue ▸ digitsValue_lt_pow hdigits)
  rw [h, List.length_cons] at hlength
  omega

end Runs

/-- An integer that is not negative is written with its digits. -/
theorem toList_repr_natCast
    (n : Nat) :
    (n : Int).repr.toList = Nat.toDigits 10 n :=
  Nat.toList_repr

/-- A negative integer is written with a sign before them. -/
theorem toList_repr_negSucc
    (n : Nat) :
    (Int.negSucc n).repr.toList = '-' :: Nat.toDigits 10 (n + 1) := by
  rw [Int.repr, String.toList_append, Nat.toList_repr]
  rfl

end Numeral

/-- A rational is written as its numerator, and after a bar its denominator if this is not one. -/
theorem Rational.toList_text
    (q : Rational) :
    q.text.toList =
      q.num.repr.toList ++ (if q.den = 1 then [] else '/' :: Nat.toDigits 10 q.den) := by
  unfold text
  split
  · rw [List.append_nil]
  · rw [String.toList_append, String.toList_append, Nat.toList_repr, List.append_assoc]
    rfl

end Reckoner
