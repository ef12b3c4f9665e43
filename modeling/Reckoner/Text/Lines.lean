import Reckoner.Text.Utf8

/-!
# Lines

A text ends its lines with a line feed, a carriage return, or both in this order. `unifyLineEnds`
makes every end a line feed; after that a line is what stands before a line feed, and a last line
without one counts if it is not empty.

**Results.**
* `flatten_linesWithEnds`: the lines with their ends, one after the other, are the text.
-/

namespace Reckoner
namespace Text

/-- The text with a line feed in the place of each line end. -/
def unifyLineEnds : List Char → List Char
  | [] => []
  | '\r' :: '\n' :: rest => '\n' :: unifyLineEnds rest
  | c :: rest => (if c = '\r' then '\n' else c) :: unifyLineEnds rest

/-- The lines of a text, each with the line feed that ends it. -/
def linesWithEnds : List Char → List (List Char)
  | [] => []
  | c :: rest =>
      if c = '\n' then [c] :: linesWithEnds rest
      else
        match linesWithEnds rest with
        | [] => [[c]]
        | line :: lines => (c :: line) :: lines

theorem flatten_linesWithEnds (cs : List Char) : (linesWithEnds cs).flatten = cs := by
  induction cs with
  | nil => rfl
  | cons c rest ih =>
    unfold linesWithEnds
    split
    · simp [ih]
    · split
      · rename_i h
        rw [h] at ih
        simp [← ih]
      · rename_i line lines h
        rw [h] at ih
        simp [← ih]

/-- A line without the line feed that ends it. -/
def dropLineFeed (line : List Char) : List Char :=
  if line.getLast? = some '\n' then line.dropLast else line

/-- The lines of a text without their line feeds. -/
def lines (cs : List Char) : List (List Char) := (linesWithEnds cs).map dropLineFeed

/-- The lines of a file. -/
def fileLines (bs : Bytes) : List (List Char) := lines (unifyLineEnds (Utf8.decodeLossy bs))

/-- A line without the carriage returns and line feeds at its end. -/
def dropLineEnds (line : List Char) : List Char :=
  (line.reverse.dropWhile fun c => c == '\r' || c == '\n').reverse

end Text
end Reckoner
