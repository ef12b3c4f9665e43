/-!
# Blank characters

The characters that surround a text without belonging to it, and the text between them.

**Results.**
* `strip_eq_nil_iff`: nothing is left exactly when every character is blank.
* `mem_strip_of_not_blank`: a character that is not blank is never lost.
* `strip_strip`: what is left has no blanks at its ends.
-/

namespace Reckoner
namespace Text

/-- Code points of the blank characters beyond the runs of `isBlank`. -/
def singleBlanks : List Nat :=
  [0x20, 0x85, 0xA0, 0x1680, 0x2028, 0x2029, 0x202F, 0x205F, 0x3000]

/-- Spaces, line ends, separators and the controls that part records. -/
def isBlank (c : Char) : Bool :=
  (0x09 ≤ c.toNat && c.toNat ≤ 0x0D) || (0x1C ≤ c.toNat && c.toNat ≤ 0x1F) ||
    (0x2000 ≤ c.toNat && c.toNat ≤ 0x200A) || singleBlanks.contains c.toNat

/-- The text without the blanks at its end. -/
def stripEnd (cs : List Char) : List Char := (cs.reverse.dropWhile isBlank).reverse

/-- The text without the blanks at its two ends. -/
def strip (cs : List Char) : List Char := stripEnd (cs.dropWhile isBlank)

theorem mem_dropWhile_of_not {p : Char → Bool} {c : Char} (h : p c = false) {cs : List Char}
    (hc : c ∈ cs) : c ∈ cs.dropWhile p := by
  rw [← List.takeWhile_append_dropWhile (p := p) (l := cs)] at hc
  rcases List.mem_append.mp hc with hc | hc
  · exact absurd (List.all_eq_true.mp List.all_takeWhile c hc) (by simp [h])
  · exact hc

theorem dropWhile_eq_nil_of_all {p : Char → Bool} {cs : List Char} (h : ∀ c ∈ cs, p c = true) :
    cs.dropWhile p = [] := by
  induction cs with
  | nil => rfl
  | cons c rest ih =>
    rw [List.dropWhile_cons_of_pos (h c List.mem_cons_self)]
    exact ih fun d hd => h d (List.mem_cons_of_mem c hd)

theorem mem_strip_of_not_blank {c : Char} (h : isBlank c = false) {cs : List Char} (hc : c ∈ cs) :
    c ∈ strip cs := by
  have hd := mem_dropWhile_of_not h hc
  exact List.mem_reverse.mpr (mem_dropWhile_of_not h (List.mem_reverse.mpr hd))

theorem mem_of_mem_strip {c : Char} {cs : List Char} (hc : c ∈ strip cs) : c ∈ cs := by
  have hd := (List.dropWhile_sublist isBlank).subset (List.mem_reverse.mp hc)
  exact (List.dropWhile_sublist isBlank).subset (List.mem_reverse.mp hd)

theorem strip_eq_nil_iff {cs : List Char} : strip cs = [] ↔ ∀ c ∈ cs, isBlank c = true := by
  constructor
  · intro h c hc
    cases hb : isBlank c with
    | true => rfl
    | false => exact absurd (mem_strip_of_not_blank hb hc) (by simp [h])
  · intro h
    simp [strip, stripEnd, dropWhile_eq_nil_of_all h]

theorem dropWhile_dropWhile (p : Char → Bool) (cs : List Char) :
    (cs.dropWhile p).dropWhile p = cs.dropWhile p := by
  induction cs with
  | nil => rfl
  | cons c rest ih =>
    cases h : p c with
    | true => rw [List.dropWhile_cons_of_pos h, ih]
    | false =>
      have hc : ¬p c = true := by simp [h]
      rw [List.dropWhile_cons_of_neg hc, List.dropWhile_cons_of_neg hc]

theorem stripEnd_cons {c : Char} (h : isBlank c = false) (rest : List Char) :
    ∃ kept, stripEnd (c :: rest) = c :: kept := by
  have hc : ∀ cs : List Char, ∃ kept, (cs ++ [c]).dropWhile isBlank = kept ++ [c] := by
    intro cs
    induction cs with
    | nil => exact ⟨[], by simp [h]⟩
    | cons d ds ih =>
      obtain ⟨kept, hk⟩ := ih
      cases hd : isBlank d with
      | true => exact ⟨kept, by rw [List.cons_append, List.dropWhile_cons_of_pos hd, hk]⟩
      | false =>
        exact ⟨d :: ds, by rw [List.cons_append, List.dropWhile_cons_of_neg (by simp [hd])]⟩
  obtain ⟨kept, hk⟩ := hc rest.reverse
  exact ⟨kept.reverse, by simp [stripEnd, hk]⟩

theorem stripEnd_stripEnd (cs : List Char) : stripEnd (stripEnd cs) = stripEnd cs := by
  simp [stripEnd, dropWhile_dropWhile]

theorem dropWhile_strip (cs : List Char) : (strip cs).dropWhile isBlank = strip cs := by
  unfold strip
  have hd := dropWhile_dropWhile isBlank cs
  cases h : cs.dropWhile isBlank with
  | nil => simp [stripEnd]
  | cons c rest =>
    rw [h] at hd
    cases hb : isBlank c with
    | true =>
      have := congrArg List.length hd
      rw [List.dropWhile_cons_of_pos hb] at this
      have hle := (List.dropWhile_sublist isBlank (l := rest)).length_le
      simp only [List.length_cons] at this
      omega
    | false =>
      obtain ⟨kept, hk⟩ := stripEnd_cons hb rest
      rw [hk, List.dropWhile_cons_of_neg (by simp [hb])]

theorem strip_strip (cs : List Char) : strip (strip cs) = strip cs := by
  rw [strip.eq_1 (strip cs), dropWhile_strip]
  exact stripEnd_stripEnd _

/-- The text of a string without the blanks at its two ends. -/
def stripped (s : String) : String := String.ofList (strip s.toList)

theorem stripped_stripped (s : String) : stripped (stripped s) = stripped s := by
  simp [stripped, strip_strip]

end Text
end Reckoner
