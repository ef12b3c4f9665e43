import Mathlib.Tactic.Common
import Reckoner.Number.Value

/-!
# Texts of numbers

Whatever its kind and its size, a number is written with digits, a sign, a fraction bar and a point,
and with no other character.

**Results.**
* `Value.isNumberText`: the characters of the text of a value.
-/

namespace Reckoner

/-- The characters that numbers are written with. -/
def isNumberChar (c : Char) : Bool :=
  c.isDigit || c == '-' || c == '/' || c == '.'

/-- Whether a text has such characters only. -/
def IsNumberText (cs : List Char) : Prop :=
  ∀ c ∈ cs, isNumberChar c = true

namespace IsNumberText

variable {cs ds : List Char}

theorem not_mem
    (h : IsNumberText cs)
    {c : Char}
    (hc : isNumberChar c = false) :
    c ∉ cs := by
  intro hmem
  rw [h c hmem] at hc
  cases hc

theorem nil :
    IsNumberText [] := by
  intro c hc
  cases hc

theorem append
    (hcs : IsNumberText cs)
    (hds : IsNumberText ds) :
    IsNumberText (cs ++ ds) := by
  intro c hc
  rcases List.mem_append.mp hc with hc | hc
  · exact hcs c hc
  · exact hds c hc

theorem cons
    {c : Char}
    (hc : isNumberChar c = true)
    (hcs : IsNumberText cs) :
    IsNumberText (c :: cs) := by
  intro d hd
  rcases List.mem_cons.mp hd with rfl | hd
  · exact hc
  · exact hcs d hd

/-- Digits alone. -/
theorem of_digits
    (h : ∀ c ∈ cs, c.isDigit = true) :
    IsNumberText cs := by
  intro c hc
  simp [isNumberChar, h c hc]

/-- The digits of a natural number. -/
theorem toDigits
    (n : Nat) :
    IsNumberText (Nat.toDigits 10 n) :=
  of_digits fun _ hc => Nat.isDigit_of_mem_toDigits (by decide) (by decide) hc

theorem natRepr
    (n : Nat) :
    IsNumberText n.repr.toList := by
  rw [Nat.toList_repr]
  exact toDigits n

/-- The digits of an integer, perhaps after a sign. -/
theorem intRepr
    (n : Int) :
    IsNumberText n.repr.toList := by
  cases n with
  | ofNat m =>
      exact natRepr m
  | negSucc m =>
      rw [Int.repr, String.toList_append]
      exact cons (by decide) (natRepr (m + 1))

end IsNumberText

/-- A rational is written as one or two integers. -/
theorem Rational.isNumberText
    (q : Rational) :
    IsNumberText q.text.toList := by
  unfold text
  split
  · exact .intRepr q.num
  · rw [String.toList_append, String.toList_append]
    exact ((IsNumberText.intRepr q.num).append (.cons (by decide) .nil)).append (.natRepr q.den)

namespace Decimal

/-- The digits of a fraction, with zeros before them and without those at their end. -/
theorem isNumberText_dropFinalZeros
    (width n : Nat) :
    IsNumberText (dropFinalZeros (padDigits width n)) := by
  intro c hc
  have hpad : c ∈ padDigits width n :=
    List.mem_reverse.mp ((List.dropWhile_sublist _).mem (List.mem_reverse.mp hc))
  rcases List.mem_append.mp hpad with hzero | hdigit
  · rw [(List.mem_replicate.mp hzero).2]
    decide
  · exact IsNumberText.toDigits n c hdigit

/-- A decimal is written in plain notation. -/
theorem isNumberText
    (d : Decimal) :
    IsNumberText d.text.toList := by
  unfold text
  split
  · exact .natRepr 0
  · rw [String.toList_ofList]
    refine .append ?_ ?_
    · split
      · exact .cons (by decide) .nil
      · exact .nil
    · unfold plain
      refine (IsNumberText.toDigits _).append ?_
      split
      · exact .nil
      · exact .cons (by decide) (isNumberText_dropFinalZeros _ _)

end Decimal

/-- A value is written with the characters of numbers. -/
theorem Value.isNumberText
    (v : Value) :
    IsNumberText v.text.toList := by
  unfold text Number.text
  cases v.number with
  | exact q =>
      exact q.isNumberText
  | approximate d =>
      exact d.isNumberText

end Reckoner
