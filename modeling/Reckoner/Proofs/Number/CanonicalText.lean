import Reckoner.Proofs.Number.DecimalText
import Reckoner.Proofs.Number.LowestTerms
import Mathlib.Tactic.Linarith

/-!
# Canonical texts

A value is written as a run of digits, as a quotient of two of them in lowest terms, or with a point and
a fraction that ends in no zero, and never with a zero that could be left out or with a sign before zero.
So a number has one such text as an exact value and one as a decimal, and the text gives the number back.
The form that a decimal had, with its exponent, its final zeros and the sign of its zero, is forgotten.

**Results.**
* `Numeral.IsWhole.eq_toDigits`: a run of digits without superfluous zeros is that of its number.
* `Numeral.eq_of_digitsValue_div_eq`: a fraction without final zeros is that of its number.
* `CanonicalText.readNumber_eq`: a canonical text is read as its number.
* `CanonicalText.eq_of_number_eq`: a number has one canonical text of each kind.
* `Value.text_canonical`: the text of a value is canonical.
-/

namespace Reckoner

namespace Numeral

/-- A run of digits that starts with no zero, unless it is the only one. -/
structure IsWhole
    (ds : List Char) : Prop where
  nonempty : ds ≠ []
  digits : Digits ds
  head : ds.head? = some '0' → ds = ['0']

theorem isWhole_toDigits
    (n : ℕ) :
    IsWhole (Nat.toDigits 10 n) where
  nonempty := Nat.toDigits_ne_nil
  digits := digits_toDigits n
  head h := by
    obtain ⟨c, cs, hcs⟩ := List.exists_cons_of_ne_nil (Nat.toDigits_ne_nil (b := 10) (n := n))
    rw [hcs, List.head?_cons, Option.some.injEq] at h
    by_cases hnil : cs = []
    · rw [hcs, h, hnil]
    · exact absurd h (head_toDigits_ne_zero hcs hnil)

section Runs

variable {ds es fs : List Char}

theorem IsWhole.head?_ne_sign
    (h : IsWhole ds) :
    ds.head? ≠ some '-' := by
  intro hhead
  exact absurd (h.digits '-' (List.mem_of_head? hhead)) (by decide)

/-- Such a run loses no zero at its start. -/
theorem IsWhole.significant_eq
    (h : IsWhole ds) :
    significant ds = ds := by
  by_cases hzero : ds.head? = some '0'
  · rw [h.head hzero]
    rfl
  · obtain ⟨d, rest, rfl⟩ := List.exists_cons_of_ne_nil h.nonempty
    have hdrop : (d :: rest).dropWhile (· == '0') = d :: rest :=
      List.dropWhile_cons_of_neg (by simpa using hzero)
    rw [significant, hdrop]

/-- It is the run of digits of its number. -/
theorem IsWhole.eq_toDigits
    (h : IsWhole ds) :
    ds = Nat.toDigits 10 (digitsValue ds) := by
  have hpos : 0 < ds.length :=
    List.length_pos_iff.mpr h.nonempty
  have hle : (Nat.toDigits 10 (digitsValue ds)).length ≤ ds.length :=
    (Nat.length_toDigits_le_iff (by decide) hpos).mpr (digitsValue_lt_pow h.digits)
  have hge : ds.length ≤ (Nat.toDigits 10 (digitsValue ds)).length := by
    by_cases hone : ds.length = 1
    · rw [hone]
      exact List.length_pos_iff.mpr Nat.toDigits_ne_nil
    · -- With one digit less the number would be below the power of ten that its first digit reaches.
      by_contra hlt
      have hbelow : digitsValue ds < 10 ^ (ds.length - 1) :=
        (Nat.length_toDigits_le_iff (by decide) (by omega)).mp (by omega)
      have hreach := pow_le_digitsValue h.digits (by rw [h.significant_eq]; omega)
      rw [h.significant_eq] at hreach
      exact absurd hbelow (Nat.not_lt.mpr hreach)
  exact eq_of_digitsValue_eq h.digits (digits_toDigits _) (Nat.le_antisymm hge hle)
    (digitsValue_toDigits _).symm

/-- Of two fractions of one number, the longer one is the shorter one with zeros after it. -/
theorem append_zeros_of_digitsValue_div_eq
    (hes : Digits es)
    (hfs : Digits fs)
    (hlength : es.length ≤ fs.length)
    (h : (digitsValue es : ℚ) / 10 ^ es.length = digitsValue fs / 10 ^ fs.length) :
    es ++ List.replicate (fs.length - es.length) '0' = fs := by
  have hpow : (10 : ℚ) ^ fs.length = 10 ^ es.length * 10 ^ (fs.length - es.length) := by
    rw [← pow_add, Nat.add_sub_cancel' hlength]
  have hvalue : digitsValue es * 10 ^ (fs.length - es.length) = digitsValue fs := by
    have hten : (10 : ℚ) ^ es.length ≠ 0 := by
      positivity
    have hten' : (10 : ℚ) ^ fs.length ≠ 0 := by
      positivity
    rw [div_eq_div_iff hten hten', hpow, mul_left_comm, mul_comm] at h
    exact_mod_cast mul_right_cancel₀ hten h
  refine eq_of_digitsValue_eq ?_ hfs ?_ ?_
  · intro c hc
    rcases List.mem_append.mp hc with hdigit | hzero
    · exact hes c hdigit
    · rw [(List.mem_replicate.mp hzero).2]
      rfl
  · simp [hlength]
  · rw [digitsValue_append_replicate_zero, hvalue]

/-- A fraction is less than one. -/
theorem digitsValue_div_lt_one
    (hes : Digits es) :
    (digitsValue es : ℚ) / 10 ^ es.length < 1 := by
  rw [div_lt_one (by positivity)]
  exact_mod_cast digitsValue_lt_pow hes

/-- Fractions of one number that end in no zero are equal. -/
theorem eq_of_digitsValue_div_eq
    (hes : Digits es)
    (hfs : Digits fs)
    (heslast : es.getLast? ≠ some '0')
    (hfslast : fs.getLast? ≠ some '0')
    (h : (digitsValue es : ℚ) / 10 ^ es.length = digitsValue fs / 10 ^ fs.length) :
    es = fs := by
  wlog hlength : es.length ≤ fs.length generalizing es fs
  · exact (this hfs hes hfslast heslast h.symm (Nat.le_of_not_le hlength)).symm
  have hzeros := append_zeros_of_digitsValue_div_eq hes hfs hlength h
  cases hk : fs.length - es.length with
  | zero =>
      simpa [hk] using hzeros
  | succ k =>
      rw [hk, List.replicate_succ', ← List.append_assoc] at hzeros
      rw [← hzeros] at hfslast
      simp at hfslast

end Runs

end Numeral

open Numeral

/-- The canonical texts of numbers that are not negative, as exact values and as decimals. -/
inductive CanonicalMagnitude : Bool → List Char → ℚ → Prop
  | whole
      {exact : Bool}
      {ds : List Char}
      (whole : IsWhole ds) :
      CanonicalMagnitude exact ds (digitsValue ds)
  | quotient
      {ns ds : List Char}
      {x : ℚ}
      (num : IsWhole ns)
      (den : IsWhole ds)
      (one_lt : 1 < digitsValue ds)
      (lowest : LowestTerms x (digitsValue ns) (digitsValue ds)) :
      CanonicalMagnitude true (ns ++ '/' :: ds) x
  | pointed
      {ds es : List Char}
      (whole : IsWhole ds)
      (nonempty : es ≠ [])
      (places : Digits es)
      (last : es.getLast? ≠ some '0') :
      CanonicalMagnitude false (ds ++ '.' :: es) (digitsValue ds + digitsValue es / 10 ^ es.length)

/-- The canonical texts of numbers: less than zero with a sign, and else without one. -/
inductive CanonicalText
    (exact : Bool) :
    List Char → ℚ → Prop
  | unsigned
      {cs : List Char}
      {x : ℚ}
      (magnitude : CanonicalMagnitude exact cs x) :
      CanonicalText exact cs x
  | signed
      {cs : List Char}
      {x : ℚ}
      (magnitude : CanonicalMagnitude exact cs x)
      (pos : 0 < x) :
      CanonicalText exact ('-' :: cs) (-x)

/-- The number of a text without a sign, a numeral or a quotient of two. -/
def readMagnitude (cs : List Char) : ℚ :=
  match cs.dropWhile (· != '/') with
  | [] => Numeral.toRat cs
  | _ :: ds => Numeral.toRat (cs.takeWhile (· != '/')) / Numeral.toRat ds

/-- The number of a text, with or without a sign. -/
def readNumber : List Char → ℚ
  | '-' :: cs => -readMagnitude cs
  | cs => readMagnitude cs

section Reading

variable {ns : List Char}

theorem readMagnitude_of_not_mem
    (h : '/' ∉ ns) :
    readMagnitude ns = Numeral.toRat ns := by
  have hdrop : ns.dropWhile (· != '/') = [] := by
    rw [List.dropWhile_eq_nil_iff]
    intro c hc
    simpa using ne_of_mem_of_not_mem hc h
  rw [readMagnitude, hdrop]

theorem readMagnitude_quotient
    (h : '/' ∉ ns)
    (ds : List Char) :
    readMagnitude (ns ++ '/' :: ds) = Numeral.toRat ns / Numeral.toRat ds := by
  have hpos : ∀ c ∈ ns, (c != '/') = true := by
    intro c hc
    simpa using ne_of_mem_of_not_mem hc h
  have htake : (ns ++ '/' :: ds).takeWhile (· != '/') = ns := by
    rw [List.takeWhile_append_of_pos hpos]
    simp
  have hdrop : (ns ++ '/' :: ds).dropWhile (· != '/') = '/' :: ds := by
    rw [List.dropWhile_append_of_pos hpos]
    simp
  rw [readMagnitude, hdrop, htake]

theorem readNumber_of_head?
    (h : ns.head? ≠ some '-') :
    readNumber ns = readMagnitude ns := by
  unfold readNumber
  split
  · simp at h
  · rfl

end Reading

namespace CanonicalMagnitude

variable {exact : Bool}
variable {cs ds : List Char}
variable {x : ℚ}

/-- The digits of a number are a canonical text of either kind. -/
theorem toDigits
    (exact : Bool)
    (n : ℕ) :
    CanonicalMagnitude exact (Nat.toDigits 10 n) n := by
  have hwhole : CanonicalMagnitude exact _ _ := .whole (isWhole_toDigits n)
  rwa [digitsValue_toDigits] at hwhole

theorem nonneg
    (h : CanonicalMagnitude exact cs x) :
    0 ≤ x := by
  cases h with
  | whole =>
      positivity
  | quotient _ _ _ lowest =>
      rw [← lowest.quotient]
      positivity
  | pointed =>
      positivity

theorem head?_ne_sign
    (h : CanonicalMagnitude exact cs x) :
    cs.head? ≠ some '-' := by
  cases h with
  | whole whole =>
      exact whole.head?_ne_sign
  | quotient num =>
      rw [List.head?_append_of_ne_nil _ num.nonempty]
      exact num.head?_ne_sign
  | pointed whole =>
      rw [List.head?_append_of_ne_nil _ whole.nonempty]
      exact whole.head?_ne_sign

/-- A canonical text is read as its number. -/
theorem readMagnitude_eq
    (h : CanonicalMagnitude exact cs x) :
    readMagnitude cs = x := by
  have bar_not_mem : ∀ {ds : List Char}, Digits ds → '/' ∉ ds :=
    fun hds hmem => absurd (hds '/' hmem) (by decide)
  cases h with
  | whole whole =>
      rw [readMagnitude_of_not_mem (bar_not_mem whole.digits), toRat_of_digits whole.digits]
  | quotient num den _ lowest =>
      rw [readMagnitude_quotient (bar_not_mem num.digits), toRat_of_digits num.digits,
        toRat_of_digits den.digits, ← lowest.quotient, Int.cast_natCast]
  | pointed whole _ places _ =>
      rw [readMagnitude_of_not_mem, toRat_append_point whole.digits]
      simpa using ⟨bar_not_mem whole.digits, bar_not_mem places⟩

/-- The canonical text of an exact number has the digits of its lowest terms. -/
theorem eq_of_exact
    (h : CanonicalMagnitude true cs x) :
    cs =
      Nat.toDigits 10 x.num.toNat ++ (if x.den = 1 then [] else '/' :: Nat.toDigits 10 x.den) := by
  cases h with
  | whole whole =>
      simpa using whole.eq_toDigits
  | quotient num den one_lt lowest =>
      obtain ⟨hnum, hden⟩ := lowestTerms_iff_num_den.mp lowest
      rw [← hnum, ← hden, if_neg one_lt.ne', Int.toNat_natCast, ← num.eq_toDigits, ← den.eq_toDigits]

/-- The canonical text of a decimal has a whole part and a fraction, if this is not zero. -/
theorem exists_of_decimal
    (h : CanonicalMagnitude false cs x) :
    ∃ (w : ℕ) (es : List Char),
      Digits es ∧
      es.getLast? ≠ some '0' ∧
      cs = Nat.toDigits 10 w ++ (if es.isEmpty then [] else '.' :: es) ∧
      x = w + digitsValue es / 10 ^ es.length := by
  cases h with
  | whole whole =>
      refine ⟨digitsValue cs, [], by simp [Digits], by simp, ?_, by simp [digitsValue]⟩
      simpa using whole.eq_toDigits
  | @pointed ds es whole nonempty places last =>
      refine ⟨digitsValue ds, es, places, last, ?_, rfl⟩
      rw [← whole.eq_toDigits]
      simp [nonempty]

/-- So a number that is not negative has one canonical text of each kind. -/
theorem eq_of_number_eq
    (h : CanonicalMagnitude exact cs x)
    (h' : CanonicalMagnitude exact ds x) :
    cs = ds := by
  cases exact with
  | true =>
      rw [h.eq_of_exact, h'.eq_of_exact]
  | false =>
      obtain ⟨w, es, hes, heslast, rfl, hx⟩ := h.exists_of_decimal
      obtain ⟨w', fs, hfs, hfslast, rfl, hx'⟩ := h'.exists_of_decimal
      -- Both fractions are less than one, so the whole parts agree, and then the fractions do.
      have hlt := digitsValue_div_lt_one hes
      have hlt' := digitsValue_div_lt_one hfs
      have hnonneg : (0 : ℚ) ≤ digitsValue es / 10 ^ es.length := by
        positivity
      have hnonneg' : (0 : ℚ) ≤ digitsValue fs / 10 ^ fs.length := by
        positivity
      have hwhole : w = w' := by
        have hle : (w : ℚ) < w' + 1 := by
          linarith
        have hge : (w' : ℚ) < w + 1 := by
          linarith
        exact Nat.le_antisymm (Nat.lt_succ_iff.mp (by exact_mod_cast hle))
          (Nat.lt_succ_iff.mp (by exact_mod_cast hge))
      have hfraction : (digitsValue es : ℚ) / 10 ^ es.length = digitsValue fs / 10 ^ fs.length := by
        rw [hx, hwhole] at hx'
        exact add_left_cancel hx'
      rw [hwhole, eq_of_digitsValue_div_eq hes hfs heslast hfslast hfraction]

end CanonicalMagnitude

namespace CanonicalText

variable {exact : Bool}
variable {cs ds : List Char}
variable {x : ℚ}

/-- A canonical text is read as its number. -/
theorem readNumber_eq
    (h : CanonicalText exact cs x) :
    readNumber cs = x := by
  cases h with
  | unsigned magnitude =>
      rw [readNumber_of_head? magnitude.head?_ne_sign, magnitude.readMagnitude_eq]
  | signed magnitude _ =>
      rw [readNumber, magnitude.readMagnitude_eq]

/-- A number has one canonical text as an exact value and one as a decimal. -/
theorem eq_of_number_eq
    (h : CanonicalText exact cs x)
    (h' : CanonicalText exact ds x) :
    cs = ds := by
  cases h with
  | unsigned magnitude =>
      cases h' with
      | unsigned magnitude' =>
          exact magnitude.eq_of_number_eq magnitude'
      | signed _ pos =>
          exact absurd magnitude.nonneg (not_le.mpr (neg_neg_of_pos pos))
  | @signed cs y magnitude pos =>
      generalize hx : -y = x at h'
      cases h' with
      | unsigned magnitude' =>
          rw [← hx] at magnitude'
          exact absurd magnitude'.nonneg (not_le.mpr (neg_neg_of_pos pos))
      | signed magnitude' _ =>
          rw [neg_inj.mp hx] at magnitude
          rw [magnitude.eq_of_number_eq magnitude']

/-- Zero is written with one digit. -/
theorem zero
    (exact : Bool) :
    CanonicalText exact ['0'] 0 := by
  have hzero := CanonicalMagnitude.toDigits exact 0
  rw [Nat.cast_zero] at hzero
  exact .unsigned hzero

end CanonicalText

/-- The digits of lowest terms are canonical. -/
theorem CanonicalMagnitude.of_parts
    {n d : ℕ}
    (hpos : 0 < d)
    (hcoprime : n.Coprime d) :
    CanonicalMagnitude true
      (Nat.toDigits 10 n ++ (if d = 1 then [] else '/' :: Nat.toDigits 10 d)) ((n : ℚ) / d) := by
  split
  · next hone =>
      rw [List.append_nil, hone, Nat.cast_one, div_one]
      exact .toDigits true n
  · next hone =>
      refine .quotient (isWhole_toDigits n) (isWhole_toDigits d) ?_ ?_
      · rw [digitsValue_toDigits]
        omega
      · rw [digitsValue_toDigits, digitsValue_toDigits]
        exact ⟨hpos, hcoprime, by rw [Int.cast_natCast]⟩

/-- So is the text of a rational. -/
theorem Rational.canonicalText
    (q : Rational) :
    CanonicalText true q.text.toList q.toRat := by
  have hmagnitude := CanonicalMagnitude.of_parts q.den_pos q.reduced
  rw [toList_text, toRat_eq_div]
  cases hnum : q.num with
  | ofNat n =>
      rw [hnum, Int.ofNat_eq_natCast, Int.natAbs_natCast] at hmagnitude
      rw [Int.ofNat_eq_natCast, toList_repr_natCast, Int.cast_natCast]
      exact .unsigned hmagnitude
  | negSucc m =>
      rw [hnum] at hmagnitude
      have hnumber : ((Int.negSucc m : ℤ) : ℚ) / q.den = -(((m + 1 : ℕ) : ℚ) / q.den) := by
        rw [Int.cast_negSucc, neg_div]
      rw [toList_repr_negSucc, hnumber]
      refine .signed hmagnitude (div_pos ?_ ?_)
      · exact Nat.cast_pos.mpr (Nat.succ_pos m)
      · exact Nat.cast_pos.mpr q.den_pos

/-- Plain notation is canonical. -/
theorem CanonicalMagnitude.plain
    (n places : ℕ) :
    CanonicalMagnitude false (Decimal.plain n places) ((n : ℚ) / 10 ^ places) := by
  rw [← Decimal.toRat_plain, Decimal.plain_eq]
  split
  · rw [List.append_nil, toRat_of_digits (digits_toDigits _), digitsValue_toDigits]
    exact .toDigits false _
  · next hsome =>
      rw [toRat_append_point (digits_toDigits _)]
      exact .pointed (isWhole_toDigits _) (by simpa using hsome) (Decimal.digits_plainPlaces _ _)
        (Decimal.getLast?_dropFinalZeros _)

/-- So is the text of a decimal. -/
theorem Decimal.canonicalText
    (d : Decimal) :
    CanonicalText false d.text.toList d.toRat := by
  have hmagnitude :=
    CanonicalMagnitude.plain (d.coefficient * tenPow d.exponent.toNat) d.places
  push_cast at hmagnitude
  rw [cast_tenPow] at hmagnitude
  by_cases h : 0 ≤ d.toRat
  · rw [toList_text h, toRat_eq_div, (signed_of_nonneg h).1, Int.cast_natCast]
    exact .unsigned hmagnitude
  · have hneg : d.toRat < 0 :=
      not_le.mp h
    have hnumber :
        d.toRat = -((d.coefficient : ℚ) * 10 ^ d.exponent.toNat / 10 ^ d.places) := by
      rw [toRat_eq_div, (signed_of_neg hneg).1, Int.cast_neg, Int.cast_natCast, neg_mul, neg_div]
    rw [hnumber] at hneg
    rw [toList_text_of_neg (not_le.mp h), hnumber]
    exact .signed hmagnitude (neg_neg_iff_pos.mp hneg)

/-- The text of a value is a canonical text of its number. -/
theorem Value.canonicalText
    (v : Value) :
    CanonicalText v.number.isExact v.text.toList v.number.toRat := by
  obtain ⟨number, scale, pos⟩ := v
  cases number with
  | exact q =>
      exact q.canonicalText
  | approximate d =>
      exact d.canonicalText

/-- The text of a value is a run of digits, a quotient in lowest terms or a fraction without final zeros,
by the kind of the value, with a sign only below zero, and it is read as the number of the value.  So
values with one text have one number, whatever their kinds, and values of one kind with one number have
one text. -/
theorem Value.text_canonical
    (v w : Value) :
    CanonicalText v.number.isExact v.text.toList v.number.toRat ∧
    readNumber v.text.toList = v.number.toRat ∧
    (v.number.toRat = 0 ↔ v.text = "0") ∧
    (v.text = w.text → v.number.toRat = w.number.toRat) ∧
    (v.number.isExact = w.number.isExact →
      (v.text = w.text ↔ v.number.toRat = w.number.toRat)) := by
  have hread : ∀ u : Value, readNumber u.text.toList = u.number.toRat :=
    fun u => u.canonicalText.readNumber_eq
  have hnumber : v.text = w.text → v.number.toRat = w.number.toRat := by
    intro h
    rw [← hread v, ← hread w, h]
  refine ⟨v.canonicalText, hread v, ⟨?_, ?_⟩, hnumber, fun hkind => ⟨hnumber, ?_⟩⟩
  · intro h
    have hcanonical := v.canonicalText
    rw [h] at hcanonical
    exact String.toList_inj.mp (hcanonical.eq_of_number_eq (.zero _))
  · intro h
    rw [← hread v, h]
    exact (CanonicalText.zero true).readNumber_eq
  · intro h
    have hcanonical := v.canonicalText
    rw [hkind, h] at hcanonical
    exact String.toList_inj.mp (hcanonical.eq_of_number_eq w.canonicalText)

example :
    (Decimal.mk false 15 2).text = "1500" ∧
    (Decimal.mk true 1500 (-4)).text = "-0.15" ∧
    (Decimal.mk true 0 (-4)).text = "0" := by
  decide +kernel

end Reckoner
