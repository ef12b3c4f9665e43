import Reckoner.Json.Basic

/-!
# Writing JSON

Two printers. `print` spreads a value over lines, two blanks for each level, in plain ASCII: every
other code point is escaped, a character beyond the basic plane as a pair. `show` writes a value on one
line as it appears inside messages.
-/

namespace Reckoner
namespace Json

section Ascii

/-- An escape of one code unit. -/
def escapeUnit (u : Nat) : List Char := '\x5c' :: 'u' :: Text.hexadecimal 4 u

/-- One character of a string in ASCII. -/
def escapeChar (c : Char) : List Char :=
  if c = '\x22' ∨ c = '\x5c' then ['\x5c', c]
  else if c = '\n' then ['\x5c', 'n']
  else if c = '\r' then ['\x5c', 'r']
  else if c = '\t' then ['\x5c', 't']
  else if c = '\x0c' then ['\x5c', 'f']
  else if c = '\x08' then ['\x5c', 'b']
  else if 0x20 ≤ c.toNat ∧ c.toNat ≤ 0x7E then [c]
  else if c.toNat < 0x10000 then escapeUnit c.toNat
  else
    escapeUnit (0xD800 + (c.toNat - 0x10000) / 0x400) ++
      escapeUnit (0xDC00 + (c.toNat - 0x10000) % 0x400)

/-- One code point of a string in ASCII. -/
def escapePoint : CodePoint → List Char
  | .char c => escapeChar c
  | .half i => CodePoint.halfEscape i

/-- A string between double quotes. -/
def printString (s : CodeString) : List Char :=
  '\x22' :: s.flatMap escapePoint ++ ['\x22']

end Ascii

/-- A floating-point number. -/
def printNumber : Binary64 → List Char
  | .nan => "NaN".toList
  | .infinite negative => if negative then "-Infinity".toList else "Infinity".toList
  | x => x.text.toList

/-- A new line at a level of nesting. -/
def newLine (level : Nat) : List Char := '\n' :: List.replicate (2 * level) ' '

mutual

/-- A value at a level of nesting. -/
def printAt (level : Nat) : Json → List Char
  | null => "null".toList
  | boolean b => if b then "true".toList else "false".toList
  | integer n => n.repr.toList
  | number x => printNumber x
  | string s => printString s
  | array [] => ['[', ']']
  | array (v :: rest) =>
      '[' :: newLine (level + 1) ++ printAt (level + 1) v ++ printItems (level + 1) rest ++
        newLine level ++ [']']
  | object [] => ['{', '}']
  | object ((name, v) :: rest) =>
      '{' :: newLine (level + 1) ++ printString name ++ ':' :: ' ' :: printAt (level + 1) v ++
        printMembers (level + 1) rest ++ newLine level ++ ['}']

/-- The items after the first. -/
def printItems (level : Nat) : List Json → List Char
  | [] => []
  | v :: rest => ',' :: newLine level ++ printAt level v ++ printItems level rest

/-- The members after the first. -/
def printMembers (level : Nat) : List (CodeString × Json) → List Char
  | [] => []
  | (name, v) :: rest =>
      ',' :: newLine level ++ printString name ++ ':' :: ' ' :: printAt level v ++
        printMembers level rest

end

/-- A value over several lines. -/
def print (v : Json) : String := String.ofList (printAt 0 v)

mutual

/-- A value on one line, as it appears inside messages. -/
def showChars : Json → List Char
  | null => "None".toList
  | boolean b => if b then "True".toList else "False".toList
  | integer n => n.repr.toList
  | number x => x.text.toList
  | string s => s.quote
  | array [] => ['[', ']']
  | array (v :: rest) => '[' :: showChars v ++ showItems rest ++ [']']
  | object [] => ['{', '}']
  | object ((name, v) :: rest) =>
      '{' :: name.quote ++ ':' :: ' ' :: showChars v ++ showMembers rest ++ ['}']

/-- The items after the first. -/
def showItems : List Json → List Char
  | [] => []
  | v :: rest => ',' :: ' ' :: showChars v ++ showItems rest

/-- The members after the first. -/
def showMembers : List (CodeString × Json) → List Char
  | [] => []
  | (name, v) :: rest =>
      ',' :: ' ' :: name.quote ++ ':' :: ' ' :: showChars v ++ showMembers rest

end

/-- A value on one line. -/
def shown (v : Json) : String := String.ofList (showChars v)

end Json
end Reckoner
