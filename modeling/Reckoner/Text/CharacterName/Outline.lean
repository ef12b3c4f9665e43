/-!
# Outlines of names

The names of characters with consecutive code points, written as an outline: names stand between
commas, and what several of them start with stands once before parentheses that hold how each goes
on. Where a name ends there, nothing stands between the commas.
-/

namespace Reckoner
namespace Text
namespace CharacterName

/-- The names of the characters from a code point on, and the lines of their outline. -/
structure Outline where
  first : Nat
  lines : List String

namespace Outline

/-- The names in a part of an outline, each from its last character to its first. `starts` holds
what the names in the open parentheses start with, the innermost first, `current` the name so far,
and `closed` is whether parentheses have just been closed, after which no name ends. -/
def backwardNames : List (List Char) → List Char → Bool → List Char → List (List Char)
  | _, current, closed, [] => if closed then [] else [current]
  | starts, current, closed, c :: rest =>
      if c = '(' then backwardNames (current :: starts) current false rest
      else if c = ',' then
        let more := backwardNames starts (starts.headD []) false rest
        if closed then more else current :: more
      else if c = ')' then
        let more := backwardNames starts.tail [] true rest
        if closed then more else current :: more
      else backwardNames starts (c :: current) closed rest

/-- The names of an outline, each from its last character to its first. -/
def names (o : Outline) : List (List Char) :=
  backwardNames [] [] false (o.lines.flatMap String.toList)

/-- The code point of the character with a name. -/
def codePoint? (o : Outline) (name : List Char) : Option Nat :=
  (o.names.idxOf? name.reverse).map fun i => o.first + i

end Outline
end CharacterName
end Text
end Reckoner
