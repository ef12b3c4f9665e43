import Mathlib.Data.List.Basic
import Mathlib.Data.List.TakeWhile
import Mathlib.Tactic.Common
import Reckoner.Text.Blank
import Reckoner.Text.Lines

/-!
# Stripping

A text is what is left of it when it is stripped, between blanks.  Blanks that are added at its end, the
ends of a line among them, do not matter to what is left.

**Results.**
* `forall_places_cons`: the places of a text, the first and those of the rest.
* `exists_append_strip`: a text falls into blanks, what is left, and blanks.
* `strip_eq_self_iff`: a text without blanks at its ends.
* `strip_rewritten`: a text may be stripped before or after it is rewritten, if that keeps its blanks.
* `strip_dropLineEnds`: a line may lose its ends before it is stripped or not.
-/

namespace Reckoner
namespace Text

/-- What holds at every place of a text holds at the first and at those of the rest. -/
theorem forall_places_cons
    {P : List Char → Char → List Char → Prop}
    {d : Char} {cs : List Char} :
    (∀ before c after, d :: cs = before ++ c :: after → P before c after) ↔
      P [] d cs ∧ ∀ before c after, cs = before ++ c :: after → P (d :: before) c after := by
  constructor
  · intro h
    refine ⟨h [] d cs rfl, ?_⟩
    rintro before c after rfl
    exact h (d :: before) c after rfl
  · rintro ⟨hfirst, hrest⟩ before c after hcs
    cases before with
    | nil =>
        obtain ⟨rfl, rfl⟩ := List.cons.inj hcs
        exact hfirst
    | cons x before =>
        obtain ⟨rfl, rfl⟩ := List.cons.inj hcs
        exact hrest before c after rfl

/-- What is taken off the end of a text makes it up with what is left. -/
theorem dropWhile_append_takeWhile_reverse
    (p : Char → Bool)
    (cs : List Char) :
    (cs.reverse.dropWhile p).reverse ++ (cs.reverse.takeWhile p).reverse = cs := by
  rw [← List.reverse_append, List.takeWhile_append_dropWhile, List.reverse_reverse]

/-- A text is what is left of it when it is stripped, with blanks before and after. -/
theorem exists_append_strip
    (cs : List Char) :
    ∃ before after : List Char,
      cs = before ++ strip cs ++ after ∧
      (∀ c ∈ before, isBlank c = true) ∧
      (∀ c ∈ after, isBlank c = true) := by
  refine ⟨cs.takeWhile isBlank, ((cs.dropWhile isBlank).reverse.takeWhile isBlank).reverse,
    ?_, ?_, ?_⟩
  · rw [List.append_assoc, strip, stripEnd, dropWhile_append_takeWhile_reverse,
      List.takeWhile_append_dropWhile]
  · intro c hc
    exact List.mem_takeWhile_imp hc
  · intro c hc
    exact List.mem_takeWhile_imp (List.mem_reverse.mp hc)

/-- Blanks at the end of a text do not matter to what is left of it when it is stripped. -/
theorem strip_append_blanks
    {blanks : List Char}
    (h : ∀ c ∈ blanks, isBlank c = true)
    (cs : List Char) :
    strip (cs ++ blanks) = strip cs := by
  have hend (ds : List Char) : stripEnd (ds ++ blanks) = stripEnd ds := by
    rw [stripEnd, List.reverse_append, List.dropWhile_append_of_pos, ← stripEnd]
    exact fun c hc => h c (List.mem_reverse.mp hc)
  unfold strip
  rw [List.dropWhile_append]
  split
  · next hempty =>
      rw [dropWhile_eq_nil_of_all h, List.isEmpty_iff.mp hempty]
  · exact hend _

/-- Blanks around a text do not matter to what is left of it when it is stripped. -/
theorem strip_between_blanks
    {before after : List Char}
    (hbefore : ∀ c ∈ before, isBlank c = true)
    (hafter : ∀ c ∈ after, isBlank c = true)
    (cs : List Char) :
    strip (before ++ cs ++ after) = strip cs := by
  rw [strip_append_blanks hafter, strip, List.dropWhile_append_of_pos hbefore, ← strip]

theorem dropWhile_eq_self_iff
    {p : Char → Bool}
    {cs : List Char} :
    cs.dropWhile p = cs ↔ ∀ c ∈ cs.head?, p c = false := by
  cases cs <;> simp [List.dropWhile_eq_self_iff]

/-- A text is left as it is exactly when neither its first character nor its last is blank. -/
theorem strip_eq_self_iff
    {cs : List Char} :
    strip cs = cs ↔
      (∀ c ∈ cs.head?, isBlank c = false) ∧ (∀ c ∈ cs.getLast?, isBlank c = false) := by
  have hend : stripEnd cs = cs ↔ ∀ c ∈ cs.getLast?, isBlank c = false := by
    rw [stripEnd, List.reverse_eq_iff, dropWhile_eq_self_iff, List.head?_reverse]
  rw [← hend, ← dropWhile_eq_self_iff]
  constructor
  · intro h
    have hstart : cs.dropWhile isBlank = cs := h ▸ dropWhile_strip cs
    refine ⟨hstart, ?_⟩
    rwa [strip, hstart] at h
  · rintro ⟨hstart, hend⟩
    rw [strip, hstart, hend]

/-- A text with characters, none of them blank. -/
def Filled (cs : List Char) : Prop := cs ≠ [] ∧ ∀ c ∈ cs, isBlank c = false

/-- A text that starts and ends with pieces without blanks is left as it is. -/
theorem strip_eq_self_of_pieces
    {cs first rest start last : List Char}
    (hfirst : cs = first ++ rest)
    (hlast : cs = start ++ last)
    (hfirst_filled : Filled first)
    (hlast_filled : Filled last) :
    strip cs = cs := by
  rw [strip_eq_self_iff]
  constructor
  · intro c hc
    rw [hfirst, List.head?_append_of_ne_nil _ hfirst_filled.1] at hc
    exact hfirst_filled.2 c (List.mem_of_mem_head? hc)
  · intro c hc
    rw [hlast, List.getLast?_append_of_ne_nil _ hlast_filled.1] at hc
    exact hlast_filled.2 c (List.mem_of_mem_getLast? hc)

section Rewriting

variable {f : List Char → List Char}

/-- A rewriting that makes pieces without blanks of the two end characters, where these are not blank,
leaves no blanks at the ends of a text. -/
theorem strip_rewritten_of_strip
    (hnil : f [] = [])
    (hfirst : ∀ (c : Char) (cs : List Char), isBlank c = false →
      ∃ first rest : List Char, f (c :: cs) = first ++ rest ∧ Filled first)
    (hlast : ∀ (cs : List Char) (c : Char), isBlank c = false →
      ∃ start last : List Char, f (cs ++ [c]) = start ++ last ∧ Filled last)
    {cs : List Char}
    (h : strip cs = cs) :
    strip (f cs) = f cs := by
  obtain ⟨hhead, hend⟩ := strip_eq_self_iff.mp h
  cases cs with
  | nil =>
      rw [hnil]
      rfl
  | cons c cs =>
      obtain ⟨before, d, hd⟩ := (c :: cs).eq_nil_or_concat'.resolve_left (List.cons_ne_nil c cs)
      obtain ⟨first, rest, hf, hfilled⟩ := hfirst c cs (hhead c rfl)
      obtain ⟨start, last, hf', hfilled'⟩ := hlast before d (hend d (by rw [hd]; simp))
      rw [← hd] at hf'
      exact strip_eq_self_of_pieces hf hf' hfilled hfilled'

/-- A text may be stripped before or after it is rewritten, if the rewriting keeps the blanks around a
text and makes no others at its ends. -/
theorem strip_rewritten
    (hnil : f [] = [])
    (hfirst : ∀ (c : Char) (cs : List Char), isBlank c = false →
      ∃ first rest : List Char, f (c :: cs) = first ++ rest ∧ Filled first)
    (hlast : ∀ (cs : List Char) (c : Char), isBlank c = false →
      ∃ start last : List Char, f (cs ++ [c]) = start ++ last ∧ Filled last)
    (haround : ∀ before cs after : List Char,
      (∀ c ∈ before, isBlank c = true) → (∀ c ∈ after, isBlank c = true) →
      f (before ++ cs ++ after) = before ++ f cs ++ after)
    (cs : List Char) :
    strip (f cs) = f (strip cs) := by
  obtain ⟨before, after, hcs, hbefore, hafter⟩ := exists_append_strip cs
  calc
    strip (f cs) = strip (before ++ f (strip cs) ++ after) := by
      rw [← haround _ _ _ hbefore hafter, ← hcs]
    _ = strip (f (strip cs)) := strip_between_blanks hbefore hafter _
    _ = f (strip cs) := strip_rewritten_of_strip hnil hfirst hlast (strip_strip cs)

end Rewriting

/-- The ends of a line are blanks. -/
theorem strip_dropLineEnds
    (line : List Char) :
    strip (dropLineEnds line) = strip line := by
  conv_rhs =>
    rw [← dropWhile_append_takeWhile_reverse (fun c => c == '\r' || c == '\n') line]
  refine (strip_append_blanks (fun c hc => ?_) _).symm
  have hend := List.mem_takeWhile_imp (List.mem_reverse.mp hc)
  simp only [Bool.or_eq_true, beq_iff_eq] at hend
  rcases hend with rfl | rfl <;> decide

end Text
end Reckoner
