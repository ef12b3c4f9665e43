import Reckoner.Json.Printer
import Reckoner.Json.Reader
import Mathlib.Algebra.Group.Nat.Defs
import Mathlib.Data.List.Chain
import Mathlib.Tactic.Common

/-!
# Strings of JSON texts

A string is written in plain ASCII.  A code point beyond ASCII is written as its code unit, or as two
code units if it lies beyond the basic plane, and a reader joins these to the character again.  Two halves
that make up a pair would be joined too, so a string is read back if it has none side by side.  Every
text is.

**Results.**
* `hexNumber?_hexadecimal`: four digits in base sixteen are read as the number that they write.
* `readUnits_escapePoint`, `joinUnits_codeUnits`: a code point is read as its code units, and code units
  are joined to their code points.
* `readString_flatMap`: a string whose halves stand apart is read back.
-/

namespace Reckoner
namespace Text

theorem hexNumber?_append_singleton
    (ds : List Char)
    (d : Char) :
    hexNumber? (ds ++ [d]) =
      (hexNumber? ds).bind fun n => (hexDigit? d).map fun d => n * 16 + d := by
  rw [hexNumber?, List.foldl_append]
  rfl

/-- The digits of a number in base sixteen are read as the number. -/
theorem hexNumber?_toDigits
    (n : Nat) :
    hexNumber? (Nat.toDigits 16 n) = some n := by
  induction n using Nat.strongRecOn with
  | ind n ih =>
      rcases Nat.lt_or_ge n 16 with hsmall | hlarge
      · rw [Nat.toDigits_of_lt_base hsmall]
        simp [hexNumber?, hexDigit?_digitChar n hsmall]
      · have hmod : n % 16 < 16 :=
          Nat.mod_lt _ (by decide)
        rw [Nat.toDigits_of_base_le (by decide) hlarge, hexNumber?_append_singleton,
          ih (n / 16) (by omega), Option.bind_some, hexDigit?_digitChar _ hmod, Option.map_some]
        congr 1
        omega

/-- Zeros before them do not count. -/
theorem hexNumber?_replicate_append
    (k : Nat)
    (ds : List Char) :
    hexNumber? (List.replicate k '0' ++ ds) = hexNumber? ds := by
  induction k with
  | zero =>
      rfl
  | succ k ih =>
      rw [List.replicate_succ, List.cons_append]
      exact ih

/-- A number is read back from its digits. -/
theorem hexNumber?_hexadecimal
    (width n : Nat) :
    hexNumber? (hexadecimal width n) = some n := by
  rw [hexadecimal, hexNumber?_replicate_append, hexNumber?_toDigits]

/-- A number below a power of sixteen has that many digits. -/
theorem length_hexadecimal
    {width n : Nat}
    (hwidth : 0 < width)
    (h : n < 16 ^ width) :
    (hexadecimal width n).length = width := by
  have hlength : (Nat.toDigits 16 n).length ≤ width :=
    (Nat.length_toDigits_le_iff (by decide) hwidth).mpr h
  simp only [hexadecimal, List.length_append, List.length_replicate]
  omega

end Text

namespace Json

section Units

variable {rest : List Char}

/-- An escaped code unit is read as itself. -/
theorem readUnits_escapeUnit
    {u : Nat}
    (h : u < 0x10000)
    (rest : List Char) :
    readUnits (escapeUnit u ++ rest) = (readUnits rest).map fun r => (u :: r.1, r.2) := by
  have hnumber := Text.hexNumber?_hexadecimal 4 u
  have hlength := @Text.length_hexadecimal 4 u (by decide) h
  rw [escapeUnit]
  match Text.hexadecimal 4 u, hlength, hnumber with
  | [a, b, c, d], _, hnumber =>
      simp only [List.cons_append, List.nil_append, readUnits, hnumber]

/-- The code units of a code point: itself, or a pair if it lies beyond the basic plane. -/
def codeUnits (p : CodePoint) : List Nat :=
  if p.number < 0x10000 then [p.number]
  else [0xD800 + (p.number - 0x10000) / 0x400, 0xDC00 + (p.number - 0x10000) % 0x400]

/-- No character has a code point among the halves of pairs. -/
theorem toNat_not_half
    (c : Char) :
    c.toNat < 0xD800 ∨ (0xDFFF < c.toNat ∧ c.toNat < 0x110000) := by
  exact c.valid

/-- A character that is written as it is, is read as its code point. -/
theorem readUnits_plain
    {c : Char}
    (hquote : c ≠ '\x22')
    (hbackslash : c ≠ '\x5c')
    (hcontrol : 0x20 ≤ c.toNat)
    (rest : List Char) :
    readUnits (c :: rest) = (readUnits rest).map fun r => (c.toNat :: r.1, r.2) := by
  have hplain : ¬ (c.toNat < 0x20 ∨ c = '\x5c') := by
    rintro (hlow | heq)
    · omega
    · exact hbackslash heq
  rw [readUnits.eq_def]
  split
  · next h =>
      cases h
  · next h =>
      exact absurd (List.cons.inj h).1 hquote
  · next h =>
      exact absurd (List.cons.inj h).1 hbackslash
  · next h =>
      exact absurd (List.cons.inj h).1 hbackslash
  · next h =>
      obtain ⟨rfl, rfl⟩ := List.cons.inj h
      rw [if_neg hplain]

/-- A letter after a backslash is read as the character that it stands for. -/
theorem readUnits_escaped
    {e c : Char}
    (hunit : e ≠ 'u')
    (h : escaped? e = some c)
    (rest : List Char) :
    readUnits ('\x5c' :: e :: rest) = (readUnits rest).map fun r => (c.toNat :: r.1, r.2) := by
  rw [readUnits.eq_def]
  split
  · next heq =>
      cases heq
  · next heq =>
      cases heq
  · next heq =>
      exact absurd (List.cons.inj (List.cons.inj heq).2).1 hunit
  · next heq =>
      obtain ⟨rfl, rfl⟩ := List.cons.inj (List.cons.inj heq).2
      rw [h]
  · next hother heq =>
      exact absurd heq (by
        rintro ⟨⟩
        exact hother e rest rfl rfl)

/-- How a character is written: with a letter after a backslash, as it is, or as its code units. -/
theorem escapeChar_cases
    (c : Char) :
    (∃ e : Char, escapeChar c = ['\x5c', e] ∧ e ≠ 'u' ∧ escaped? e = some c ∧ c.toNat < 0x10000) ∨
    (escapeChar c = [c] ∧ c ≠ '\x22' ∧ c ≠ '\x5c' ∧ 0x20 ≤ c.toNat ∧ c.toNat < 0x10000) ∨
    (escapeChar c = escapeUnit c.toNat ∧ c.toNat < 0x10000) ∨
    (escapeChar c =
        escapeUnit (0xD800 + (c.toNat - 0x10000) / 0x400) ++
          escapeUnit (0xDC00 + (c.toNat - 0x10000) % 0x400) ∧
      0x10000 ≤ c.toNat) := by
  unfold escapeChar
  split_ifs with hmark hfeed hreturn htab hpage hback hascii hbasic
  · left
    rcases hmark with rfl | rfl
    · exact ⟨_, rfl, by decide, rfl, by decide⟩
    · exact ⟨_, rfl, by decide, rfl, by decide⟩
  · subst hfeed
    exact .inl ⟨_, rfl, by decide, rfl, by decide⟩
  · subst hreturn
    exact .inl ⟨_, rfl, by decide, rfl, by decide⟩
  · subst htab
    exact .inl ⟨_, rfl, by decide, rfl, by decide⟩
  · subst hpage
    exact .inl ⟨_, rfl, by decide, rfl, by decide⟩
  · subst hback
    exact .inl ⟨_, rfl, by decide, rfl, by decide⟩
  · rw [not_or] at hmark
    exact .inr (.inl ⟨rfl, hmark.1, hmark.2, hascii.1, by omega⟩)
  · exact .inr (.inr (.inl ⟨rfl, hbasic⟩))
  · exact .inr (.inr (.inr ⟨rfl, Nat.not_lt.mp hbasic⟩))

/-- A character of a string is read as its code units. -/
theorem readUnits_escapeChar
    (c : Char)
    (rest : List Char) :
    readUnits (escapeChar c ++ rest) =
      (readUnits rest).map fun r => (codeUnits (.char c) ++ r.1, r.2) := by
  have hrange := toNat_not_half c
  rw [codeUnits, CodePoint.number]
  rcases escapeChar_cases c with
    ⟨e, hescape, hunit, hescaped, hbasic⟩ | ⟨hescape, hquote, hbackslash, hcontrol, hbasic⟩ |
      ⟨hescape, hbasic⟩ | ⟨hescape, hbeyond⟩
  · rw [hescape, if_pos hbasic]
    exact readUnits_escaped hunit hescaped rest
  · rw [hescape, if_pos hbasic]
    exact readUnits_plain hquote hbackslash hcontrol rest
  · rw [hescape, if_pos hbasic]
    exact readUnits_escapeUnit hbasic rest
  · rw [hescape, if_neg (Nat.not_lt.mpr hbeyond), List.append_assoc,
      readUnits_escapeUnit (by omega), readUnits_escapeUnit (by omega), Option.map_map]
    rfl

/-- So is any code point. -/
theorem readUnits_escapePoint
    (p : CodePoint)
    (rest : List Char) :
    readUnits (escapePoint p ++ rest) =
      (readUnits rest).map fun r => (codeUnits p ++ r.1, r.2) := by
  cases p with
  | char c =>
      exact readUnits_escapeChar c rest
  | half i =>
      have hbasic : (CodePoint.half i).number < 0x10000 := by
        simp only [CodePoint.number]
        omega
      rw [codeUnits, if_pos hbasic]
      exact readUnits_escapeUnit hbasic rest

/-- The code points of a string are read as their code units, up to the closing quote. -/
theorem readUnits_flatMap
    (s : CodeString)
    (rest : List Char) :
    readUnits (s.flatMap escapePoint ++ '\x22' :: rest) = some (s.flatMap codeUnits, rest) := by
  induction s with
  | nil =>
      rfl
  | cons p s ih =>
      rw [List.flatMap_cons, List.append_assoc, readUnits_escapePoint, ih]
      rfl

end Units

section Joining

variable {units : List Nat}

/-- A code unit is joined to none, unless it is a first half and a second half follows. -/
theorem joinUnits_cons
    {u : Nat}
    (h : isHighHalf u = true → ∀ v ∈ units.head?, isLowHalf v = false) :
    joinUnits (u :: units) = .ofNumber u :: joinUnits units := by
  cases units with
  | nil =>
      rfl
  | cons v units =>
      have hpair : (isHighHalf u && isLowHalf v) = false := by
        cases hhigh : isHighHalf u with
        | false =>
            rfl
        | true =>
            exact h hhigh v rfl
      rw [joinUnits, hpair]
      rfl

/-- A code point is had back from its number. -/
theorem ofNumber_number
    (p : CodePoint) :
    .ofNumber p.number = p := by
  cases p with
  | char c =>
      have hrange := toNat_not_half c
      rw [CodePoint.number, CodePoint.ofNumber, dif_neg (by omega), Char.ofNat_toNat]
  | half i =>
      rw [CodePoint.number, CodePoint.ofNumber, dif_pos (by omega)]
      simp

/-- The code units of a code point are joined to the code point, unless it is a first half and a second
half follows. -/
theorem joinUnits_codeUnits
    {p : CodePoint}
    (h : isHighHalf p.number = true → ∀ v ∈ units.head?, isLowHalf v = false) :
    joinUnits (codeUnits p ++ units) = p :: joinUnits units := by
  unfold codeUnits
  split
  · rw [List.singleton_append, joinUnits_cons h, ofNumber_number]
  · next hbeyond =>
      cases p with
      | half i =>
          simp only [CodePoint.number] at hbeyond
          omega
      | char c =>
          have hrange := toNat_not_half c
          rw [CodePoint.number] at hbeyond ⊢
          have hhigh : isHighHalf (0xD800 + (c.toNat - 0x10000) / 0x400) = true := by
            simp only [isHighHalf, Bool.and_eq_true, decide_eq_true_eq]
            omega
          have hlow : isLowHalf (0xDC00 + (c.toNat - 0x10000) % 0x400) = true := by
            simp only [isLowHalf, Bool.and_eq_true, decide_eq_true_eq]
            omega
          have hjoined :
              0x10000 + (0xD800 + (c.toNat - 0x10000) / 0x400 - 0xD800) * 0x400 +
                (0xDC00 + (c.toNat - 0x10000) % 0x400 - 0xDC00) = c.toNat := by
            omega
          rw [List.cons_append, List.singleton_append, joinUnits, hhigh, hlow, hjoined]
          simp

/-- The first code unit of a code point is a second half exactly if the code point is. -/
theorem isLowHalf_head_codeUnits
    {p : CodePoint}
    {u : Nat}
    (h : u ∈ (codeUnits p ++ units).head?) :
    isLowHalf u = isLowHalf p.number := by
  unfold codeUnits at h
  split at h
  · obtain rfl := Option.some.inj h
    rfl
  · next hbeyond =>
      obtain rfl := Option.some.inj h
      cases p with
      | half i =>
          simp only [CodePoint.number] at hbeyond
          omega
      | char c =>
          have hrange := toNat_not_half c
          rw [CodePoint.number] at hbeyond ⊢
          rw [Bool.eq_iff_iff]
          simp only [isLowHalf, Bool.and_eq_true, decide_eq_true_eq]
          omega

end Joining

/-- No two halves that make up a pair stand side by side in a string. -/
def Apart (s : CodeString) : Prop :=
  s.IsChain fun p q => isHighHalf p.number = true → isLowHalf q.number = false

/-- In a text there are no halves. -/
theorem apart_ofString
    (s : String) :
    Apart s := by
  have hwhole : ∀ c : Char, isHighHalf (CodePoint.char c).number = false := by
    intro c
    have hrange := toNat_not_half c
    rw [CodePoint.number]
    simp only [isHighHalf, Bool.and_eq_false_iff, decide_eq_false_iff_not]
    omega
  unfold Apart CodeString.ofString CodeString.ofChars
  induction s.toList with
  | nil =>
      exact .nil
  | cons c cs ih =>
      refine ih.cons fun q _ hhigh => ?_
      rw [hwhole] at hhigh
      cases hhigh

/-- The code units of a string are joined to the string, if its halves stand apart. -/
theorem joinUnits_flatMap
    {s : CodeString}
    (h : Apart s) :
    joinUnits (s.flatMap codeUnits) = s := by
  induction s with
  | nil =>
      rfl
  | cons p s ih =>
      obtain ⟨hnext, hrest⟩ := List.isChain_cons.mp h
      rw [List.flatMap_cons, joinUnits_codeUnits, ih hrest]
      intro hhigh v hv
      cases s with
      | nil =>
          cases hv
      | cons q s =>
          rw [isLowHalf_head_codeUnits hv]
          exact hnext q rfl hhigh

/-- A string whose halves stand apart is read back, whatever follows it. -/
theorem readString_flatMap
    {s : CodeString}
    (h : Apart s)
    (rest : List Char) :
    readString (s.flatMap escapePoint ++ '\x22' :: rest) = .ok (s, rest) := by
  rw [readString, readUnits_flatMap]
  dsimp only
  rw [joinUnits_flatMap h]

end Json
end Reckoner
