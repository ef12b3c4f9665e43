import Reckoner.Text.Hexadecimal
import Reckoner.Text.Printable

/-!
# Quoted texts

A text as it is shown inside a message: between quote marks, on one line, every character that has
no printed form written as an escape.

The mark is the apostrophe, unless the text holds an apostrophe and no double quote.
-/

namespace Reckoner
namespace Text

/-- The apostrophe. -/
def apostrophe : Char := '\x27'

/-- The double quote. -/
def doubleQuote : Char := '\x22'

/-- The backslash. -/
def backslash : Char := '\x5c'

/-- The mark that encloses a text. -/
def quoteMark (cs : List Char) : Char :=
  if cs.contains apostrophe && !cs.contains doubleQuote then doubleQuote else apostrophe

/-- One character between quote marks. -/
def quoteChar (mark c : Char) : List Char :=
  if c = mark ∨ c = backslash then [backslash, c]
  else if c = '\n' then [backslash, 'n']
  else if c = '\r' then [backslash, 'r']
  else if c = '\t' then [backslash, 't']
  else if isPrintable c then [c]
  else if c.toNat < 0x100 then backslash :: 'x' :: hexadecimal 2 c.toNat
  else if c.toNat < 0x10000 then backslash :: 'u' :: hexadecimal 4 c.toNat
  else backslash :: 'U' :: hexadecimal 8 c.toNat

/-- A text between quote marks. -/
def quote (cs : List Char) : List Char :=
  let mark := quoteMark cs
  mark :: cs.flatMap (quoteChar mark) ++ [mark]

/-- A string between quote marks. -/
def quoted (s : String) : String := String.ofList (quote s.toList)

end Text
end Reckoner
