import Reckoner.Failure
import Reckoner.Json.Basic
import Reckoner.Number.Scientific
import Reckoner.Text.Hexadecimal

/-!
# Reading JSON

A strict reader: one value with blanks around it and nothing else. Beyond the standard it knows the
numbers `NaN`, `Infinity` and `-Infinity`. A number with a fraction or an exponent is a
floating-point number, any other an integer. Half of a pair of code units that stands alone is kept as a
code point.

The readers go through a text once, so of two faults the first one counts. An integer may have more
digits than are read; that is a fault of its own.

The nesting of the readers is bounded by a fuel; `Json.read` computes one that suffices from the
length of the text, since two steps of the readers take at least one character.
-/

namespace Reckoner
namespace Json

/-- Why a text is not read. -/
inductive ReadFault where
  /-- The text is no JSON text. -/
  | malformed
  /-- An integer has this many digits, more than are read. -/
  | longInteger (digits : Nat)
  deriving DecidableEq, Repr

/-- What is read at the start of a text, and the text after it. -/
abbrev Reading (α : Type) := Except ReadFault (α × List Char)

/-- Blanks between the tokens of a JSON text. -/
def isSpace (c : Char) : Bool := c == ' ' || c == '\t' || c == '\n' || c == '\r'

/-- The text from its first token on. -/
def skipSpace (cs : List Char) : List Char := cs.dropWhile isSpace

/-- The rest of a text that starts with `word`. -/
def after? (word : List Char) (cs : List Char) : Option (List Char) :=
  if word.isPrefixOf cs then some (cs.drop word.length) else none

section Strings

/-- The character that a letter after a backslash stands for. -/
def escaped? (c : Char) : Option Char :=
  if c = '\x22' ∨ c = '\x5c' ∨ c = '/' then some c
  else if c = 'b' then some '\x08'
  else if c = 'f' then some '\x0c'
  else if c = 'n' then some '\n'
  else if c = 'r' then some '\r'
  else if c = 't' then some '\t'
  else none

/-- The code units of a string up to its closing quote, and the text after it. -/
def readUnits : List Char → Option (List Nat × List Char)
  | [] => none
  | '\x22' :: rest => some ([], rest)
  | '\x5c' :: 'u' :: a :: b :: c :: d :: rest =>
      match Text.hexNumber? [a, b, c, d] with
      | some unit => (readUnits rest).map fun r => (unit :: r.1, r.2)
      | none => none
  | '\x5c' :: e :: rest =>
      match escaped? e with
      | some c => (readUnits rest).map fun r => (c.toNat :: r.1, r.2)
      | none => none
  | c :: rest =>
      if c.toNat < 0x20 ∨ c = '\x5c' then none
      else (readUnits rest).map fun r => (c.toNat :: r.1, r.2)

/-- Whether a code unit is the first half of a pair. -/
def isHighHalf (u : Nat) : Bool := 0xD800 ≤ u && u ≤ 0xDBFF

/-- Whether a code unit is the second half of a pair. -/
def isLowHalf (u : Nat) : Bool := 0xDC00 ≤ u && u ≤ 0xDFFF

/-- The code points of a sequence of code units, pairs joined. -/
def joinUnits : List Nat → CodeString
  | [] => []
  | [u] => [.ofNumber u]
  | u :: v :: rest =>
      if isHighHalf u && isLowHalf v then
        .char (Char.ofNat (0x10000 + (u - 0xD800) * 0x400 + (v - 0xDC00))) :: joinUnits rest
      else .ofNumber u :: joinUnits (v :: rest)

/-- A string after its opening quote, and the text after its closing quote. -/
def readString (cs : List Char) : Reading CodeString :=
  match readUnits cs with
  | some (units, rest) => .ok (joinUnits units, rest)
  | none => .error .malformed

end Strings

section Numbers

/-- Characters that may belong to a number. -/
def isNumberChar (c : Char) : Bool :=
  c.isDigit || c == '-' || c == '+' || c == '.' || c == 'e' || c == 'E'

/-- The number that a text writes. -/
def number? (cs : List Char) : Option Json :=
  match Scientific.ofText? cs with
  | none => none
  | some s =>
      if s.hasLeadingZero then none
      else if s.isInteger then some (integer s.toDecimal.signed)
      else some (number (Binary64.ofDecimal s.toDecimal))

/-- A text without the sign at its start. -/
def dropSign : List Char → List Char
  | '-' :: rest => rest
  | rest => rest

/-- The digits of the integer at the start of a text; none follows a zero at their start. -/
def integerDigits : List Char → List Char
  | '0' :: _ => ['0']
  | cs => cs.takeWhile Char.isDigit

/-- Whether a text starts with the digits of an exponent. -/
def startsExponent : List Char → Bool
  | '-' :: d :: _ => d.isDigit
  | '+' :: d :: _ => d.isDigit
  | d :: _ => d.isDigit
  | [] => false

/-- Whether a number goes on after its integer, with a fraction or an exponent. -/
def goesOn : List Char → Bool
  | '.' :: d :: _ => d.isDigit
  | 'e' :: rest => startsExponent rest
  | 'E' :: rest => startsExponent rest
  | _ => false

/-- How many digits the integer at the start of a text has; none if there is another number. -/
def integerLength (cs : List Char) : Nat :=
  let cs := dropSign cs
  let ds := integerDigits cs
  if goesOn (cs.drop ds.length) then 0 else ds.length

/-- A number at the start of a text, and the text after it. The digits of an integer are counted before
anything else is asked of it. -/
def readNumber (longest : Option Nat) (cs : List Char) : Reading Json :=
  let digits := integerLength cs
  if longest.any fun n => n < digits then .error (.longInteger digits)
  else
    match number? (cs.takeWhile isNumberChar) with
    | some v => .ok (v, cs.dropWhile isNumberChar)
    | none => .error .malformed

end Numbers

/-- The values that are single words. -/
def words : List (List Char × Json) :=
  [("null".toList, null), ("true".toList, boolean true), ("false".toList, boolean false),
    ("NaN".toList, number .nan), ("Infinity".toList, number (.infinite false)),
    ("-Infinity".toList, number (.infinite true))]

/-- A word or a number at the start of a text, and the text after it. -/
def readScalar (longest : Option Nat) (cs : List Char) : Reading Json :=
  match words.findSome? fun w => (after? w.1 cs).map fun rest => (w.2, rest) with
  | some r => .ok r
  | none => readNumber longest cs

mutual

/-- A value at the start of a text, and the text after it. -/
def readValue (longest : Option Nat) : Nat → List Char → Reading Json
  | 0, _ => .error .malformed
  | _ + 1, '\x22' :: rest => (readString rest).map fun r => (string r.1, r.2)
  | fuel + 1, '[' :: rest =>
      match skipSpace rest with
      | ']' :: rest => .ok (array [], rest)
      | rest => (readItems longest fuel rest).map fun r => (array r.1, r.2)
  | fuel + 1, '{' :: rest =>
      match skipSpace rest with
      | '}' :: rest => .ok (object [], rest)
      | rest => (readMembers longest fuel rest).map fun r => (ofMembers r.1, r.2)
  | _ + 1, cs => readScalar longest cs

/-- The items of an array from the next one on, and the text after the closing bracket. -/
def readItems (longest : Option Nat) : Nat → List Char → Reading (List Json)
  | 0, _ => .error .malformed
  | fuel + 1, cs =>
      match readValue longest fuel cs with
      | .error f => .error f
      | .ok (v, rest) =>
          match skipSpace rest with
          | ']' :: rest => .ok ([v], rest)
          | ',' :: rest =>
              (readItems longest fuel (skipSpace rest)).map fun r => (v :: r.1, r.2)
          | _ => .error .malformed

/-- The members of an object from the next one on, and the text after the closing brace. -/
def readMembers (longest : Option Nat) : Nat → List Char → Reading (List (CodeString × Json))
  | 0, _ => .error .malformed
  | fuel + 1, '\x22' :: rest =>
      match readString rest with
      | .error f => .error f
      | .ok (name, rest) =>
          match skipSpace rest with
          | ':' :: rest =>
              match readValue longest fuel (skipSpace rest) with
              | .error f => .error f
              | .ok (v, rest) =>
                  match skipSpace rest with
                  | '}' :: rest => .ok ([(name, v)], rest)
                  | ',' :: rest =>
                      (readMembers longest fuel (skipSpace rest)).map fun r =>
                        ((name, v) :: r.1, r.2)
                  | _ => .error .malformed
          | _ => .error .malformed
  | _ + 1, _ => .error .malformed

end

/-- The value that a text writes, in which no integer has more digits than `longest`. -/
def readWithin (longest : Option Nat) (cs : List Char) : Except ReadFault Json :=
  match readValue longest (2 * cs.length + 2) (skipSpace cs) with
  | .ok (v, rest) => if (skipSpace rest).isEmpty then .ok v else .error .malformed
  | .error f => .error f

/-- The value that a text writes, if it is a JSON text. -/
def read (cs : List Char) : Option Json := (readWithin none cs).toOption

/-- The value that the text of a file writes. Its integers have as many digits as a number may have
that is read from digits. -/
def load (cs : List Char) : Except ReadFault Json := readWithin (some longestInteger) cs

end Json
end Reckoner
