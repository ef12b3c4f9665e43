import Reckoner.Text.CharacterName.From0020
import Reckoner.Text.CharacterName.From0700
import Reckoner.Text.CharacterName.From1780
import Reckoner.Text.CharacterName.From20D0
import Reckoner.Text.CharacterName.From2460
import Reckoner.Text.CharacterName.From2B00
import Reckoner.Text.CharacterName.FromA640
import Reckoner.Text.CharacterName.FromFB50
import Reckoner.Text.CharacterName.From10500
import Reckoner.Text.CharacterName.From11280
import Reckoner.Text.CharacterName.From16800
import Reckoner.Text.CharacterName.From1D000
import Reckoner.Text.CharacterName.From1F000
import Reckoner.Text.CharacterName.From1F680
import Reckoner.Text.CharacterName.Further
import Reckoner.Text.Hexadecimal
import Reckoner.Text.Printable

/-!
# Characters by name

Every character of a script or a set of symbols has a name. Most names stand in outlines. An
ideograph is named by its code point, and a Korean syllable by the sounds it consists of. Only the
names of unified ideographs and of syllables have to be in upper case.
-/

namespace Reckoner
namespace Text
namespace CharacterName

/-- All outlines. -/
def outlines : List Outline :=
  from0020 ++ from0700 ++ from1780 ++ from20D0 ++ from2460 ++ from2B00 ++ fromA640 ++ fromFB50 ++
    from10500 ++ from11280 ++ from16800 ++ from1D000 ++ from1F000 ++ from1F680 ++ further

section CodePoints

/-- What the names of unified ideographs start with. -/
def unifiedStart : String := "CJK UNIFIED IDEOGRAPH-"

/-- Ranges of the unified ideographs (ends included). -/
def unifiedRanges : List (Nat × Nat) := [
  (0x3400, 0x4DBF), (0x4E00, 0x9FFF), (0x20000, 0x2A6DF), (0x2A700, 0x2B738), (0x2B740, 0x2B81D),
  (0x2B820, 0x2CEA1), (0x2CEB0, 0x2EBE0), (0x30000, 0x3134A)]

/-- What the names of other characters that are named by their code points start with, and the
ranges of those characters (ends included). -/
def numberedRanges : List (String × List (Nat × Nat)) := [
  ("CJK COMPATIBILITY IDEOGRAPH-", [(0xF900, 0xFA6D), (0xFA70, 0xFAD9), (0x2F800, 0x2FA1D)]),
  ("KHITAN SMALL SCRIPT CHARACTER-", [(0x18B00, 0x18CD5)]),
  ("NUSHU CHARACTER-", [(0x1B170, 0x1B2FB)])]

/-- The code point that four or five digits in base sixteen write, with letters in upper case. -/
def writtenCode? (ds : List Char) : Option Nat :=
  if (ds.length = 4 ∨ ds.length = 5) ∧ ds.all fun d => !d.isLower then hexNumber? ds else none

/-- The code point of a name that starts as given and ends in a code point of some ranges. -/
def numbered? (start : String) (ranges : List (Nat × Nat)) (name : List Char) : Option Nat :=
  if start.toList.isPrefixOf name then
    (writtenCode? (name.drop start.length)).filter fun n => inRanges ranges n
  else none

/-- The code point of a unified ideograph by its name. -/
def unified? (name : List Char) : Option Nat := numbered? unifiedStart unifiedRanges name

/-- The code point of another character that is named by it; no zero is put before it. -/
def otherNumbered? (name : List Char) : Option Nat :=
  numberedRanges.findSome? fun r =>
    if name[r.1.length]? == some '0' then none else numbered? r.1 r.2 name

end CodePoints

section Syllables

/-- What the names of Korean syllables start with. -/
def syllableStart : String := "HANGUL SYLLABLE "

/-- The sounds that start a syllable, in order. -/
def leadingSounds : List String :=
  ["G", "GG", "N", "D", "DD", "R", "M", "B", "BB", "S", "SS", "", "J", "JJ", "C", "K", "T", "P",
    "H"]

/-- The sounds in the middle of a syllable, in order. -/
def vowelSounds : List String :=
  ["A", "AE", "YA", "YAE", "EO", "E", "YEO", "YE", "O", "WA", "WAE", "OE", "YO", "U", "WEO", "WE",
    "WI", "YU", "EU", "YI", "I"]

/-- The sounds that end a syllable, in order. -/
def trailingSounds : List String :=
  ["", "G", "GG", "GS", "N", "NJ", "NH", "D", "L", "LG", "LM", "LB", "LS", "LT", "LP", "LH", "M",
    "B", "BS", "S", "SS", "NG", "J", "C", "K", "T", "P", "H"]

/-- The letters of vowels. -/
def vowelLetters : List Char := ['A', 'E', 'I', 'O', 'U', 'W', 'Y']

/-- The first syllable. -/
def firstSyllable : Nat := 0xAC00

/-- The number of a sound among the sounds of a place. -/
def sound? (sounds : List String) (cs : List Char) : Option Nat := sounds.idxOf? (String.ofList cs)

/-- The code point of a Korean syllable by its name. -/
def syllable? (name : List Char) : Option Nat :=
  if syllableStart.toList.isPrefixOf name then
    let isVowel (c : Char) : Bool := vowelLetters.contains c
    let sounds := name.drop syllableStart.length
    let rest := sounds.dropWhile fun c => !isVowel c
    match sound? leadingSounds (sounds.takeWhile fun c => !isVowel c),
      sound? vowelSounds (rest.takeWhile isVowel),
      sound? trailingSounds (rest.dropWhile isVowel) with
    | some l, some v, some t =>
        some (firstSyllable + (l * vowelSounds.length + v) * trailingSounds.length + t)
    | _, _, _ => none
  else none

end Syllables

/-- The code point of the character with a name. -/
def codePoint? (name : List Char) : Option Nat :=
  let upper := name.map Char.toUpper
  (unified? name).or <| (syllable? name).or <| (otherNumbered? upper).or <|
    outlines.findSome? fun o => o.codePoint? upper

end CharacterName

/-- The character with a name. -/
def characterNamed? (name : List Char) : Option Char :=
  (CharacterName.codePoint? name).map Char.ofNat

end Text
end Reckoner
