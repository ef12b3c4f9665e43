import Reckoner.Text.Quoted

/-!
# Strings of code points

A document may name half of a pair of code units with no other half beside it. Such a half is a code
point, but no character, so a string of a document is a sequence of code points. It is a text if all of
them are characters, and every text is such a string.
-/

namespace Reckoner

/-- A code point: a character, or half of a pair that stands alone. -/
inductive CodePoint where
  | char (c : Char)
  /-- The half that is `i` above the first one. -/
  | half (i : Fin 0x800)
  deriving DecidableEq, Repr

namespace CodePoint

/-- The number of a code point. -/
def number : CodePoint → Nat
  | char c => c.toNat
  | half i => 0xD800 + i

/-- The code point with a number. -/
def ofNumber (n : Nat) : CodePoint :=
  if h : 0xD800 ≤ n ∧ n ≤ 0xDFFF then half ⟨n - 0xD800, by omega⟩ else char (Char.ofNat n)

/-- The escape of half of a pair. -/
def halfEscape (i : Fin 0x800) : List Char :=
  Text.backslash :: 'u' :: Text.hexadecimal 4 (half i).number

end CodePoint

/-- A sequence of code points. -/
abbrev CodeString := List CodePoint

namespace CodeString

/-- The code points of some characters. -/
def ofChars (cs : List Char) : CodeString := cs.map .char

/-- The code points of a text. -/
def ofString (s : String) : CodeString := ofChars s.toList

instance : Coe String CodeString := ⟨ofString⟩

/-- The characters of a string, if it is a text. -/
def toChars? : CodeString → Option (List Char)
  | [] => some []
  | .char c :: rest => (toChars? rest).map fun cs => c :: cs
  | .half _ :: _ => none

/-- The text that a string is. -/
def toString? (s : CodeString) : Option String := s.toChars?.map String.ofList

/-- Whether a half of a pair stands alone in a string. -/
def HasHalf (s : CodeString) : Prop := ∃ i : Fin 0x800, .half i ∈ s

/-- The order by the numbers of code points. -/
def le (a b : CodeString) : Bool := !(b.map CodePoint.number).lex (a.map CodePoint.number) Nat.blt

/-- One code point between quote marks. -/
def quotePoint (mark : Char) : CodePoint → List Char
  | .char c => Text.quoteChar mark c
  | .half i => CodePoint.halfEscape i

/-- The characters of a string. -/
def chars (s : CodeString) : List Char :=
  s.filterMap fun p => match p with | .char c => some c | .half _ => none

/-- A string between quote marks. -/
def quote (s : CodeString) : List Char :=
  let mark := Text.quoteMark s.chars
  mark :: s.flatMap (quotePoint mark) ++ [mark]

/-- A string between quote marks, as a text. -/
def quoted (s : CodeString) : String := String.ofList s.quote

@[simp]
theorem toChars?_ofChars (cs : List Char) : (ofChars cs).toChars? = some cs := by
  induction cs with
  | nil => rfl
  | cons c cs ih =>
    rw [ofChars] at ih ⊢
    rw [List.map_cons, toChars?, ih]
    rfl

@[simp]
theorem toString?_ofString (s : String) : (ofString s).toString? = some s := by
  simp [toString?, ofString]

@[simp]
theorem ofString_inj {s t : String} : ofString s = ofString t ↔ s = t := by
  constructor
  · intro h
    simpa using congrArg toString? h
  · rintro rfl
    rfl

@[simp]
theorem ofString_eq_nil {s : String} : ofString s = [] ↔ s = "" := by
  rw [ofString, ofChars, List.map_eq_nil_iff, String.toList_eq_nil_iff]

@[simp]
theorem beq_ofString (s t : String) : (ofString s == ofString t) = (s == t) := by
  rw [Bool.eq_iff_iff, beq_iff_eq, beq_iff_eq, ofString_inj]

theorem not_hasHalf_ofString (s : String) : ¬ (ofString s).HasHalf := by
  rintro ⟨i, hi⟩
  simp [ofString, ofChars] at hi

theorem hasHalf_append {s t : CodeString} : HasHalf (s ++ t) ↔ s.HasHalf ∨ t.HasHalf := by
  simp [HasHalf, exists_or]

theorem toChars?_of_hasHalf {s : CodeString} (h : s.HasHalf) : s.toChars? = none := by
  obtain ⟨i, hi⟩ := h
  induction s with
  | nil => cases hi
  | cons p s ih =>
    cases p with
    | half j => rfl
    | char c =>
      rw [toChars?, ih (by simpa using hi)]
      rfl

theorem toString?_of_hasHalf {s : CodeString} (h : s.HasHalf) : s.toString? = none := by
  rw [toString?, toChars?_of_hasHalf h]
  rfl

/-- A string is a text, or half of a pair stands alone in it. -/
theorem eq_ofString_or_hasHalf (s : CodeString) : (∃ t : String, s = t) ∨ s.HasHalf := by
  induction s with
  | nil => exact .inl ⟨"", rfl⟩
  | cons p s ih =>
    cases p with
    | half i => exact .inr ⟨i, by simp⟩
    | char c =>
      rcases ih with ⟨t, rfl⟩ | ⟨i, hi⟩
      · exact .inl ⟨String.ofList (c :: t.toList), by simp [ofString, ofChars]⟩
      · exact .inr ⟨i, List.mem_cons_of_mem _ hi⟩

@[simp]
theorem ofString_append (s t : String) : ofString (s ++ t) = ofString s ++ ofString t := by
  simp [ofString, ofChars]

/-- A text is quoted as its characters are. -/
theorem quoted_ofString (s : String) : (ofString s).quoted = Text.quoted s := by
  have hchars : (ofString s).chars = s.toList := by
    rw [chars, ofString, ofChars, List.filterMap_map]
    exact List.filterMap_some
  rw [quoted, quote, hchars, Text.quoted, Text.quote]
  simp [ofString, ofChars, List.flatMap_map, quotePoint]

end CodeString
end Reckoner
