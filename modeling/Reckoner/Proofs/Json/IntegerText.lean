import Reckoner.Json.Printer
import Reckoner.Json.Reader
import Reckoner.Proofs.Number.DigitRuns

/-!
# Integers and words of JSON texts

An integer is written with its digits and perhaps a sign.  A reader takes as many characters as can
belong to a number, so it reads the integer back if no such character follows.

**Results.**
* `Scientific.ofText?_digits`, `Scientific.ofText?_sign`: a run of digits as a number in scientific
  notation.
* `readScalar_integer`: an integer is read back.
* `readScalar_null`, `readScalar_true`, `readScalar_false`: so are the words.
-/

namespace Reckoner

open Numeral

section Notation

variable {ds : List Char}

theorem ne_sign_of_isDigit
    {c : Char}
    (h : c.isDigit = true) :
    c ≠ '-' := by
  rintro rfl
  exact absurd h (by decide)

/-- Digits alone are a whole part. -/
theorem Scientific.ofText?_digits
    (hds : Digits ds)
    (hne : ds ≠ []) :
    ofText? ds = some ⟨false, ds, none, none⟩ := by
  obtain ⟨d, rest, rfl⟩ := List.exists_cons_of_ne_nil hne
  have hsign : d ≠ '-' :=
    ne_sign_of_isDigit (hds d (by simp))
  have htake : (d :: rest).takeWhile Char.isDigit = d :: rest :=
    List.takeWhile_eq_self_iff.mpr hds
  have hdrop : (d :: rest).dropWhile Char.isDigit = [] :=
    List.dropWhile_eq_nil_iff.mpr hds
  simp [ofText?, hsign, htake, hdrop]

/-- With a sign before them they are negative. -/
theorem Scientific.ofText?_sign
    (hds : Digits ds)
    (hne : ds ≠ []) :
    ofText? ('-' :: ds) = some ⟨true, ds, none, none⟩ := by
  have htake : ds.takeWhile Char.isDigit = ds :=
    List.takeWhile_eq_self_iff.mpr hds
  have hdrop : ds.dropWhile Char.isDigit = [] :=
    List.dropWhile_eq_nil_iff.mpr hds
  simp [ofText?, htake, hdrop, hne]

end Notation

namespace Json

/-- The digits of a number have no zero before them. -/
theorem hasLeadingZero_toDigits
    (negative : Bool)
    (n : Nat) :
    Scientific.hasLeadingZero ⟨negative, Nat.toDigits 10 n, none, none⟩ = false := by
  unfold Scientific.hasLeadingZero
  split
  · next c cs heq =>
      exact absurd rfl (head_toDigits_ne_zero heq (List.cons_ne_nil _ _))
  · rfl

/-- An integer is read from its text. -/
theorem number?_repr
    (n : Int) :
    number? n.repr.toList = some (.integer n) := by
  cases n with
  | ofNat m =>
      rw [Int.ofNat_eq_natCast, toList_repr_natCast, number?,
        Scientific.ofText?_digits (digits_toDigits m) Nat.toDigits_ne_nil]
      simp [hasLeadingZero_toDigits, Scientific.isInteger, Scientific.toDecimal, Decimal.signed]
  | negSucc m =>
      rw [toList_repr_negSucc, number?,
        Scientific.ofText?_sign (digits_toDigits _) Nat.toDigits_ne_nil]
      simp [hasLeadingZero_toDigits, Scientific.isInteger, Scientific.toDecimal, Decimal.signed,
        Int.negSucc_eq]

/-- No number goes on here. -/
def EndsNumber (rest : List Char) : Prop :=
  ∀ c ∈ rest.head?, isNumberChar c = false

section Scalars

variable {rest : List Char}

/-- The text of an integer starts with a digit, or with a sign and a digit. -/
theorem repr_cases
    (n : Int) :
    ∃ (d : Char) (ds : List Char),
      d.isDigit = true ∧ Digits ds ∧
      (n.repr.toList = d :: ds ∨ n.repr.toList = '-' :: d :: ds) := by
  have hdigits : ∀ m : Nat, ∃ (d : Char) (ds : List Char),
      Nat.toDigits 10 m = d :: ds ∧ d.isDigit = true ∧ Digits ds := by
    intro m
    obtain ⟨d, ds, hds⟩ := List.exists_cons_of_ne_nil (Nat.toDigits_ne_nil (b := 10) (n := m))
    have hall := digits_toDigits m
    rw [hds] at hall
    exact ⟨d, ds, hds, hall d (by simp), fun c hc => hall c (by simp [hc])⟩
  cases n with
  | ofNat m =>
      obtain ⟨d, ds, hm, hd, hds⟩ := hdigits m
      exact ⟨d, ds, hd, hds, .inl (by rw [Int.ofNat_eq_natCast, toList_repr_natCast, hm])⟩
  | negSucc m =>
      obtain ⟨d, ds, hm, hd, hds⟩ := hdigits (m + 1)
      exact ⟨d, ds, hd, hds, .inr (by rw [toList_repr_negSucc, hm])⟩

theorem isNumberChar_of_isDigit
    {c : Char}
    (h : c.isDigit = true) :
    isNumberChar c = true := by
  simp [isNumberChar, h]

theorem isNumberChar_of_mem_repr
    (n : Int) :
    ∀ c ∈ n.repr.toList, isNumberChar c = true := by
  obtain ⟨d, ds, hd, hds, htext | htext⟩ := repr_cases n
  · rw [htext, List.forall_mem_cons]
    exact ⟨isNumberChar_of_isDigit hd, fun c hc => isNumberChar_of_isDigit (hds c hc)⟩
  · rw [htext, List.forall_mem_cons, List.forall_mem_cons]
    exact ⟨rfl, isNumberChar_of_isDigit hd, fun c hc => isNumberChar_of_isDigit (hds c hc)⟩

/-- Nothing of a number stands where none goes on. -/
theorem takeWhile_of_endsNumber
    {p : Char → Bool}
    (hp : ∀ c, p c = true → isNumberChar c = true)
    (hrest : EndsNumber rest) :
    rest.takeWhile p = [] := by
  cases rest with
  | nil =>
      rfl
  | cons c rest =>
      have hc := hrest c rfl
      rw [List.takeWhile_cons_of_neg]
      intro hpc
      rw [hp c hpc] at hc
      cases hc

/-- The digits at the start of a text are no more than those before the number ends. -/
theorem length_integerDigits_le
    {ds : List Char}
    (hds : Digits ds)
    (hne : ds ≠ [])
    (hrest : EndsNumber rest) :
    (integerDigits (ds ++ rest)).length ≤ ds.length := by
  unfold integerDigits
  split
  · exact List.length_pos_iff.mpr hne
  · rw [List.takeWhile_append_of_pos hds,
      takeWhile_of_endsNumber (fun _ => isNumberChar_of_isDigit) hrest, List.append_nil]

/-- The integer at the start of a text has no more digits than its magnitude. -/
theorem integerLength_repr_le
    (n : Int)
    (hrest : EndsNumber rest) :
    integerLength (n.repr.toList ++ rest) ≤ (Nat.toDigits 10 n.natAbs).length := by
  have hlength : ∀ m : Nat, ∀ cs : List Char, dropSign cs = Nat.toDigits 10 m ++ rest →
      integerLength cs ≤ (Nat.toDigits 10 m).length := by
    intro m cs hcs
    have hdigits := length_integerDigits_le (digits_toDigits m) Nat.toDigits_ne_nil hrest
    unfold integerLength
    rw [hcs]
    dsimp only
    split
    · exact Nat.zero_le _
    · exact hdigits
  cases n with
  | ofNat m =>
      refine hlength m _ ?_
      obtain ⟨d, ds, hm⟩ := List.exists_cons_of_ne_nil (Nat.toDigits_ne_nil (b := 10) (n := m))
      have hd : d ≠ '-' :=
        ne_sign_of_isDigit (digits_toDigits m d (by simp [hm]))
      rw [Int.ofNat_eq_natCast, toList_repr_natCast, hm, List.cons_append]
      unfold dropSign
      split
      · next h => exact absurd (List.cons.inj h).1 hd
      · rfl
  | negSucc m =>
      refine hlength (m + 1) _ ?_
      rw [toList_repr_negSucc]
      rfl

/-- A number is read up to where it ends, if its integer is no longer than integers may be. -/
theorem readNumber_append
    {cs : List Char}
    {v : Json}
    (h : ∀ c ∈ cs, isNumberChar c = true)
    (hv : number? cs = some v)
    {longest : Option Nat}
    (hlength : ∀ m ∈ longest, integerLength (cs ++ rest) ≤ m)
    (hrest : EndsNumber rest) :
    readNumber longest (cs ++ rest) = .ok (v, rest) := by
  have hshort : (longest.any fun n => n < integerLength (cs ++ rest)) = false := by
    rw [Option.any_eq_false]
    exact fun m hm => decide_eq_false (Nat.not_lt.mpr (hlength m hm))
  have htake : rest.takeWhile isNumberChar = [] :=
    takeWhile_of_endsNumber (fun _ => id) hrest
  have hdrop : rest.dropWhile isNumberChar = rest := by
    cases rest with
    | nil =>
        rfl
    | cons c rest =>
        rw [List.dropWhile_cons_of_neg]
        simp [hrest c rfl]
  rw [readNumber, hshort, List.takeWhile_append_of_pos h, List.dropWhile_append_of_pos h, htake, hdrop,
    List.append_nil, hv]
  rfl

/-- No word starts as an integer does. -/
theorem words_findSome?_repr
    (n : Int)
    (rest : List Char) :
    (words.findSome? fun w => (after? w.1 (n.repr.toList ++ rest)).map fun rest => (w.2, rest)) =
      none := by
  obtain ⟨d, ds, hd, -, htext⟩ := repr_cases n
  have hletter : ∀ c : Char, c.isDigit = false → c ≠ d := by
    rintro c hc rfl
    rw [hd] at hc
    cases hc
  have hn := hletter 'n' rfl
  have ht := hletter 't' rfl
  have hf := hletter 'f' rfl
  have hN := hletter 'N' rfl
  have hI := hletter 'I' rfl
  have hsign := hletter '-' rfl
  rcases htext with htext | htext
  · simp [words, after?, htext, hn, ht, hf, hN, hI, hsign]
  · simp [words, after?, htext, hI]

/-- An integer is read back that is no longer than integers may be, if no number goes on after it. -/
theorem readScalar_integer
    {longest : Option Nat}
    {n : Int}
    (hn : ∀ m ∈ longest, (Nat.toDigits 10 n.natAbs).length ≤ m)
    (rest : List Char)
    (hrest : EndsNumber rest) :
    readScalar longest (n.repr.toList ++ rest) = .ok (.integer n, rest) := by
  rw [readScalar, words_findSome?_repr]
  dsimp only
  refine readNumber_append (isNumberChar_of_mem_repr n) (number?_repr n) (fun m hm => ?_) hrest
  exact (integerLength_repr_le n hrest).trans (hn m hm)

theorem readScalar_null
    (longest : Option Nat)
    (rest : List Char) :
    readScalar longest ("null".toList ++ rest) = .ok (.null, rest) := by
  rfl

theorem readScalar_true
    (longest : Option Nat)
    (rest : List Char) :
    readScalar longest ("true".toList ++ rest) = .ok (.boolean true, rest) := by
  rfl

theorem readScalar_false
    (longest : Option Nat)
    (rest : List Char) :
    readScalar longest ("false".toList ++ rest) = .ok (.boolean false, rest) := by
  rfl

end Scalars

end Json
end Reckoner
