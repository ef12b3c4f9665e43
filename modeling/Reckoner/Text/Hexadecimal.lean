/-!
# Base sixteen

The digits of a number in base sixteen, as they are written and as they are read.

**Results.**
* `hexDigit?_digitChar`: every digit that is written is read as itself.
-/

namespace Reckoner
namespace Text

/-- The digits of `n` in base sixteen, filled with zeros on the left to `width`. -/
def hexadecimal (width n : Nat) : List Char :=
  let ds := Nat.toDigits 16 n
  List.replicate (width - ds.length) '0' ++ ds

/-- The digit that a character is in base sixteen. -/
def hexDigit? (c : Char) : Option Nat :=
  if c.isDigit then some (c.toNat - '0'.toNat)
  else if 'a' ≤ c ∧ c ≤ 'f' then some (c.toNat - 'a'.toNat + 10)
  else if 'A' ≤ c ∧ c ≤ 'F' then some (c.toNat - 'A'.toNat + 10)
  else none

theorem hexDigit?_digitChar : ∀ n, n < 16 → hexDigit? n.digitChar = some n := by decide

/-- The number that a run of digits writes in base sixteen. -/
def hexNumber? (ds : List Char) : Option Nat :=
  ds.foldl (fun n d => n.bind fun n => (hexDigit? d).map fun d => n * 16 + d) (some 0)

end Text
end Reckoner
