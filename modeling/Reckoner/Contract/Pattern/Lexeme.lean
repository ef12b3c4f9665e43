import Reckoner.Text.CharacterName
import Reckoner.Text.Digits
import Reckoner.Text.Hexadecimal
import Reckoner.Text.Identifier

/-!
# Lexemes of search patterns

A schema may hold search patterns. The text of a pattern consists of lexemes, the smallest parts
that mean something: a character or a class of characters, an anchor, a repetition, a bar, a
parenthesis with what its group is for, or a reference back to a group. `lexeme?` takes one from the
start of a text. In a loose text, which a flag asks for, blanks and the rest of a line after a hash
mean nothing.
-/

namespace Reckoner
namespace Contract
namespace Pattern

/-- How a group is referred to. -/
inductive Reference where
  | number (n : Nat)
  | name (cs : List Char)
  deriving DecidableEq, Repr

/-- What a group is for. -/
inductive Group where
  | plain
  /-- A group with flags that hold in it, and flags that do not. -/
  | flagged (on off : List Char)
  | numbered (name : Option (List Char))
  | lookAhead
  | lookBehind
  /-- A choice by whether another group took part. -/
  | choice (condition : Reference)
  deriving DecidableEq, Repr

/-- The parts of a pattern. -/
inductive Lexeme where
  | character
  | anchor
  /-- Blanks and remarks. -/
  | nothing
  /-- Flags for the whole pattern. -/
  | flags (given : List Char)
  | repetition (least : Nat) (most : Option Nat)
  | back (r : Reference)
  | bar
  | opening (g : Group)
  | closing
  deriving DecidableEq, Repr

section Escapes

/-- The text after `count` digits in base sixteen, with their number. -/
def takeHex (count : Nat) (cs : List Char) : Option (Nat × List Char) :=
  if (cs.take count).length = count then
    (Text.hexNumber? (cs.take count)).map fun n => (n, cs.drop count)
  else none

/-- The letters that stand for a class of characters after a backslash. -/
def classLetters : List Char := ['d', 'D', 's', 'S', 'w', 'W']

/-- The letters that stand for a place after a backslash. -/
def placeLetters : List Char := ['A', 'b', 'B', 'Z']

/-- The characters that stand for a single one after a backslash. -/
def controlLetters : List (Char × Nat) :=
  [('a', 7), ('b', 8), ('t', 9), ('n', 10), ('v', 11), ('f', 12), ('r', 13)]

/-- Whether a character is a digit in base eight. -/
def isOctal (c : Char) : Bool := '0' ≤ c && c ≤ '7'

/-- The number that digits write in base eight. -/
def octal (ds : List Char) : Nat := Nat.ofDigitChars 8 ds 0

/-- The greatest number of an escape in base eight. -/
def octalLimit : Nat := 0xFF

/-- A character given by its number in base sixteen, after the letter that says how many digits
there are. -/
def numberedCharacter (c : Char) (rest : List Char) : Option (Nat × List Char) :=
  if c = 'x' then takeHex 2 rest
  else if c = 'u' then takeHex 4 rest
  else if c = 'U' then (takeHex 8 rest).filter fun r => r.1 < 0x110000
  else none

/-- The text between a given character and the one that closes it, if there is any, and what is left
after it. -/
def takeUntil (close : Char) (cs : List Char) : Option (List Char × List Char) :=
  match cs.takeWhile (· != close), cs.dropWhile (· != close) with
  | c :: name, _ :: rest => some (c :: name, rest)
  | _, _ => none

/-- The number of a character given by its name between braces. -/
def namedCharacter : List Char → Option (Nat × List Char)
  | '\x7b' :: rest =>
      match takeUntil '\x7d' rest with
      | some (name, rest) => (Text.characterNamed? name).map fun c => (c.toNat, rest)
      | none => none
  | _ => none

/-- A group reference or a character in base eight, from its first digit, which is not zero, on. -/
def digitEscape (c : Char) (rest : List Char) : Option (Lexeme × List Char) :=
  match rest with
  | d :: rest =>
      if !d.isDigit then some (.back (.number (octal [c])), d :: rest)
      else
        match rest with
        | e :: more =>
            if isOctal c && isOctal d && isOctal e then
              if octalLimit < octal [c, d, e] then none else some (.character, more)
            else some (.back (.number (Nat.ofDigitChars 10 [c, d] 0)), rest)
        | [] => some (.back (.number (Nat.ofDigitChars 10 [c, d] 0)), [])
  | [] => some (.back (.number (octal [c])), [])

/-- An escape outside a class, after its backslash. -/
def escape : List Char → Option (Lexeme × List Char)
  | [] => none
  | c :: rest =>
      if placeLetters.contains c then some (.anchor, rest)
      else if classLetters.contains c || (controlLetters.lookup c).isSome then
        some (.character, rest)
      else if c = 'N' then (namedCharacter rest).map fun r => (.character, r.2)
      else if c = '0' then
        some (.character, rest.drop ((rest.take 2).takeWhile isOctal).length)
      else if c.isDigit then digitEscape c rest
      else if c.isAlpha then (numberedCharacter c rest).map fun r => (.character, r.2)
      else some (.character, rest)

end Escapes

section Classes

/-- An escape in a class, after its backslash: the number of the character it stands for, unless it
stands for several. -/
def classEscape : List Char → Option (Option Nat × List Char)
  | [] => none
  | c :: rest =>
      if classLetters.contains c then some (none, rest)
      else
        match controlLetters.lookup c with
        | some n => some (some n, rest)
        | none =>
            if c = 'N' then (namedCharacter rest).map fun r => (some r.1, r.2)
            else if isOctal c then
              let ds := (rest.take 2).takeWhile isOctal
              if octalLimit < octal (c :: ds) then none
              else some (some (octal (c :: ds)), rest.drop ds.length)
            else if c.isDigit then none
            else if c.isAlpha then (numberedCharacter c rest).map fun r => (some r.1, r.2)
            else some (some c.toNat, rest)

/-- The next member of a class. -/
def classMember : List Char → Option (Option Nat × List Char)
  | [] => none
  | c :: rest => if c = '\x5c' then classEscape rest else some (some c.toNat, rest)

/-- What is left after the rest of a class. A bracket does not close a class without members, and a
range has its ends in order. -/
def classRest : Nat → Bool → List Char → Option (List Char)
  | 0, _, _ => none
  | fuel + 1, empty, cs =>
      if !empty && cs.head? == some ']' then some (cs.drop 1)
      else
        match classMember cs with
        | none => none
        | some (low, rest) =>
            match rest with
            | '-' :: ']' :: rest => some rest
            | '-' :: rest =>
                match low, classMember rest with
                | some low, some (some high, rest) =>
                    if low ≤ high then classRest fuel false rest else none
                | _, _ => none
            | rest => classRest fuel false rest

/-- What is left after a class, from behind its opening bracket. -/
def afterClass (cs : List Char) : Option (List Char) :=
  let body := if cs.head? == some '^' then cs.drop 1 else cs
  classRest (cs.length + 1) true body

end Classes

section Groups

/-- The letters of flags. -/
def flagLetters : List Char := ['a', 'i', 'm', 's', 't', 'u', 'x']

/-- The flags that say which characters are letters. They exclude each other and cannot be taken
back. -/
def alphabetFlags : List Char := ['a', 'u']

/-- The flag of patterns that repeat nothing. Only a whole pattern can have it. -/
def templateFlag : Char := 't'

/-- The flag for loose text. -/
def looseFlag : Char := 'x'

/-- Flags, for the whole pattern or for a group in which some may also be taken back. -/
def flagGroup (cs : List Char) : Option (Lexeme × List Char) :=
  let given := cs.takeWhile flagLetters.contains
  if alphabetFlags.all given.contains then none
  else
    match cs.dropWhile flagLetters.contains with
    | ')' :: rest => if given.isEmpty then none else some (.flags given, rest)
    | ':' :: rest =>
        if given.isEmpty || given.contains templateFlag then none
        else some (.opening (.flagged given []), rest)
    | '-' :: rest =>
        let taken := rest.takeWhile flagLetters.contains
        match rest.dropWhile flagLetters.contains with
        | ':' :: rest =>
            if taken.isEmpty || (given ++ taken).contains templateFlag ||
                taken.any fun c => alphabetFlags.contains c || given.contains c
            then none
            else some (.opening (.flagged given taken), rest)
        | _ => none
    | _ => none

/-- Numbers of groups that are too large. -/
def groupLimit : Nat := 1073741823

/-- The number of a group, with a plus sign before it or none. -/
def groupNumber? (cs : List Char) : Option Nat :=
  let digits :=
    match Text.trimNumber cs with
    | '+' :: rest => rest
    | rest => rest
  (Text.groupedNumber? digits).filter fun n => n != 0 && n < groupLimit

/-- The condition of a choice. -/
def condition? (cs : List Char) : Option Reference :=
  if Text.isIdentifier cs then some (.name cs) else (groupNumber? cs).map .number

/-- What is left after a remark; a backslash keeps a parenthesis from closing it. -/
def afterRemark : List Char → Option (List Char)
  | [] => none
  | '\x5c' :: _ :: rest => afterRemark rest
  | c :: rest => if c = ')' then some rest else afterRemark rest

/-- What is left after the rest of a line; a backslash keeps a line feed from ending it. -/
def afterLine : List Char → Option (List Char)
  | [] => some []
  | ['\x5c'] => none
  | '\x5c' :: _ :: rest => afterLine rest
  | c :: rest => if c = '\n' then some rest else afterLine rest

/-- What an opening parenthesis starts: a group, flags, a reference by name, or a remark. -/
def afterParenthesis : List Char → Option (Lexeme × List Char)
  | '?' :: 'P' :: '<' :: rest =>
      match takeUntil '>' rest with
      | some (name, rest) =>
          if Text.isIdentifier name then some (.opening (.numbered (some name)), rest) else none
      | none => none
  | '?' :: 'P' :: '=' :: rest => (takeUntil ')' rest).map fun r => (.back (.name r.1), r.2)
  | '?' :: ':' :: rest => some (.opening .plain, rest)
  | '?' :: '>' :: rest => some (.opening .plain, rest)
  | '?' :: '=' :: rest => some (.opening .lookAhead, rest)
  | '?' :: '!' :: rest => some (.opening .lookAhead, rest)
  | '?' :: '<' :: '=' :: rest => some (.opening .lookBehind, rest)
  | '?' :: '<' :: '!' :: rest => some (.opening .lookBehind, rest)
  | '?' :: '#' :: rest => (afterRemark rest).map fun rest => (.nothing, rest)
  | '?' :: '(' :: rest =>
      match takeUntil ')' rest with
      | some (text, rest) =>
          (condition? text).map fun condition => (.opening (.choice condition), rest)
      | none => none
  | '?' :: rest => flagGroup rest
  | rest => some (.opening (.numbered none), rest)

end Groups

section Repetitions

/-- The bounds between braces, after the opening brace. -/
def bounds? (cs : List Char) : Option (Nat × Option Nat × List Char) :=
  let low := cs.takeWhile Char.isDigit
  let number (ds : List Char) : Nat := Nat.ofDigitChars 10 ds 0
  match cs.dropWhile Char.isDigit with
  | '\x7d' :: rest => if low.isEmpty then none else some (number low, some (number low), rest)
  | ',' :: rest =>
      let high := rest.takeWhile Char.isDigit
      match rest.dropWhile Char.isDigit with
      | '\x7d' :: rest =>
          some (number low, if high.isEmpty then none else some (number high), rest)
      | _ => none
  | _ => none

/-- A repetition, and what is left after the mark that says how eagerly it is tried. -/
def repetition (least : Nat) (most : Option Nat) (rest : List Char) : Lexeme × List Char :=
  match rest with
  | '?' :: rest => (.repetition least most, rest)
  | '+' :: rest => (.repetition least most, rest)
  | rest => (.repetition least most, rest)

/-- A repetition with bounds, after the opening brace; braces that hold no bounds are ordinary
characters. A backslash alone after the bounds can start nothing. -/
def bounded (cs : List Char) : Option (Lexeme × List Char) :=
  match bounds? cs with
  | none => some (.character, cs)
  | some (least, most, rest) => if rest = ['\x5c'] then none else some (repetition least most rest)

end Repetitions

/-- The lexeme that starts with a character, and what is left after it. -/
def lexeme (c : Char) (rest : List Char) : Option (Lexeme × List Char) :=
  if c = '\x5c' then escape rest
  else if c = '[' then (afterClass rest).map fun rest => (.character, rest)
  else if c = '(' then afterParenthesis rest
  else if c = ')' then some (.closing, rest)
  else if c = '|' then some (.bar, rest)
  else if c = '^' ∨ c = '$' then some (.anchor, rest)
  else if c = '*' then some (repetition 0 none rest)
  else if c = '+' then some (repetition 1 none rest)
  else if c = '?' then some (repetition 0 (some 1) rest)
  else if c = '\x7b' then bounded rest
  else some (.character, rest)

/-- The characters that mean nothing in loose text. -/
def looseBlanks : List Char := [' ', '\t', '\n', '\r', '\x0b', '\x0c']

/-- The lexeme at the start of a text, where there is one, and what is left after it. -/
def lexeme? (loose : Bool) (c : Char) (rest : List Char) : Option (Lexeme × List Char) :=
  if loose && looseBlanks.contains c then some (.nothing, rest)
  else if loose && c == '#' then (afterLine rest).map fun rest => (.nothing, rest)
  else lexeme c rest

end Pattern
end Contract
end Reckoner
