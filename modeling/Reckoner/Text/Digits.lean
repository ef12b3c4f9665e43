import Reckoner.Text.Blank
import Reckoner.Text.Pieces

/-!
# Digits of all scripts

Every script counts its decimal digits from a zero of its own. A whole number may be written with
digits of any of them, in groups that single underscores part, and with blanks around it.

**Results.**
* `isAnyDigit_of_isDigit`: the plain digits are among them.
-/

namespace Reckoner
namespace Text

/-- Code points of the digits zero of all scripts; the other nine follow each of them. -/
def zeroDigits : List Nat := [
  0x30, 0x660, 0x6F0, 0x7C0, 0x966, 0x9E6, 0xA66, 0xAE6, 0xB66, 0xBE6, 0xC66, 0xCE6, 0xD66, 0xDE6,
  0xE50, 0xED0, 0xF20, 0x1040, 0x1090, 0x17E0, 0x1810, 0x1946, 0x19D0, 0x1A80, 0x1A90, 0x1B50,
  0x1BB0, 0x1C40, 0x1C50, 0xA620, 0xA8D0, 0xA900, 0xA9D0, 0xA9F0, 0xAA50, 0xABF0, 0xFF10, 0x104A0,
  0x10D30, 0x11066, 0x110F0, 0x11136, 0x111D0, 0x112F0, 0x11450, 0x114D0, 0x11650, 0x116C0,
  0x11730, 0x118E0, 0x11950, 0x11C50, 0x11D50, 0x11DA0, 0x16A60, 0x16AC0, 0x16B50, 0x1D7CE,
  0x1D7D8, 0x1D7E2, 0x1D7EC, 0x1D7F6, 0x1E140, 0x1E2F0, 0x1E950, 0x1FBF0]

/-- The number that a decimal digit of any script stands for. -/
def digitValue? (c : Char) : Option Nat :=
  (zeroDigits.find? fun z => z ≤ c.toNat && c.toNat ≤ z + 9).map fun z => c.toNat - z

/-- Whether a character is a decimal digit of any script. -/
def isAnyDigit (c : Char) : Bool := (digitValue? c).isSome

theorem isAnyDigit_of_isDigit {c : Char} (h : c.isDigit = true) : isAnyDigit c = true := by
  obtain ⟨low, high⟩ : 48 ≤ c.toNat ∧ c.toNat ≤ 57 := by
    simpa [Char.isDigit, UInt32.le_iff_toNat_le] using h
  simp [isAnyDigit, digitValue?, zeroDigits, low, high]

/-- Blanks around a number: all but the controls that part records. -/
def isNumberBlank (c : Char) : Bool := isBlank c && !(0x1C ≤ c.toNat && c.toNat ≤ 0x1F)

/-- The text of a number without the blanks around it. -/
def trimNumber (cs : List Char) : List Char :=
  ((cs.dropWhile isNumberBlank).reverse.dropWhile isNumberBlank).reverse

/-- Whether underscores stand alone and between other characters only. -/
def isGrouped (cs : List Char) : Bool := (pieces '_' cs).all fun group => !group.isEmpty

/-- The whole number that grouped digits write, from zero on. -/
def groupedNumber? (cs : List Char) : Option Nat :=
  if isGrouped cs && cs.all fun c => c == '_' || isAnyDigit c then
    some ((cs.filterMap digitValue?).foldl (fun n d => 10 * n + d) 0)
  else none

end Text
end Reckoner
