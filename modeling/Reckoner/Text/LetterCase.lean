import Reckoner.Text.LetterRuns
import Reckoner.Text.Printable

/-!
# Letter case

Upper and lower case of whole texts. Two rules look beyond the single letter: the dotted capital I
becomes two characters in lower case, and a capital sigma becomes the final sigma where a cased
letter stands before it and none after it.
-/

namespace Reckoner
namespace Text

/-- Letters that have a case. -/
def isCased (c : Char) : Bool := inRanges casedRanges c.toNat

/-- Characters passed over in the search for a cased letter. -/
def isCaseIgnorable (c : Char) : Bool := inRanges caseIgnorableRanges c.toNat

/-- Whether the nearest character that is not passed over is a cased letter. -/
def meetsCased (cs : List Char) : Bool :=
  match cs.dropWhile isCaseIgnorable with
  | [] => false
  | c :: _ => isCased c

/-- Lower case of one letter, between the text `before` it (nearest first) and `after` it. -/
def lowerLetter (before : List Char) (c : Char) (after : List Char) : List Char :=
  if c.toNat = 0x130 then ['i', Char.ofNat 0x307]
  else if c.toNat = 0x3A3 then
    [Char.ofNat (if meetsCased before && !meetsCased after then 0x3C2 else 0x3C3)]
  else [Char.ofNat (LetterRun.apply lowerRuns c.toNat)]

/-- Lower case of a text that follows `before` (nearest first). -/
def lowerAfter (before : List Char) : List Char → List Char
  | [] => []
  | c :: after => lowerLetter before c after ++ lowerAfter (c :: before) after

/-- Lower case of a text. -/
def lower (cs : List Char) : List Char := lowerAfter [] cs

/-- Upper case of one letter. -/
def upperLetter (c : Char) : List Char :=
  match upperExpansions.lookup c.toNat with
  | some codes => codes.map Char.ofNat
  | none => [Char.ofNat (LetterRun.apply upperRuns c.toNat)]

/-- Upper case of a text. -/
def upper (cs : List Char) : List Char := cs.flatMap upperLetter

/-- Upper case of a string. -/
def inUpperCase (s : String) : String := String.ofList (upper s.toList)

end Text
end Reckoner
