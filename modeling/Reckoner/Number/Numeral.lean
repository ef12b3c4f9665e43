import Reckoner.Number.Value

/-!
# Numerals

The unsigned numbers of an expression: digits, digits with a point among or after them, or a point
with digits after it. One line end after a numeral belongs to it.

A numeral with few enough places is an exact value over a power of ten; one with more places is a
decimal with as many places as it has. The line end counts as a place and as a digit, but adds
nothing to the number.
-/

namespace Reckoner

/-- How precisely an expression is evaluated: the scale of its values, and the number of places up
to which a numeral is exact. -/
structure Precision where
  scale : Int := 10
  exactPlaces : Int := 10
  deriving DecidableEq, Repr

namespace Numeral

/-- The text without one line end at its end. -/
def dropLineEnd (cs : List Char) : List Char :=
  if cs.getLast? = some '\n' then cs.dropLast else cs

/-- The characters before the first point. -/
def whole (cs : List Char) : List Char := cs.takeWhile (· != '.')

/-- The characters after the first point. -/
def fraction (cs : List Char) : List Char := (cs.dropWhile (· != '.')).drop 1

/-- Digits, with a point at most once and at least one digit in all. -/
def isPlain (cs : List Char) : Bool :=
  (whole cs).all Char.isDigit && (fraction cs).all Char.isDigit &&
    !(whole cs ++ fraction cs).isEmpty

/-- Whether a text is a numeral. -/
def isNumeral (cs : List Char) : Bool := isPlain (dropLineEnd cs)

/-- The digits from the first that is not zero on; one zero if there is none. -/
def significant (cs : List Char) : List Char :=
  match cs.dropWhile (· == '0') with
  | [] => ['0']
  | ds => ds

/-- The number that a run of digits writes. -/
def digitsValue (ds : List Char) : Nat := Nat.ofDigitChars 10 ds 0

/-- The integer that a run of digits writes, with one line end allowed after it. -/
def readInteger (cs : List Char) : Except Failure Nat :=
  match dropLineEnd cs with
  | [] => .error .lineEndNumeral
  | ds =>
      if longestInteger < ds.length then .error (.integerLength (some ds.length))
      else .ok (digitsValue ds)

/-- More digits than this before the point do not fit a word. -/
def wordDigits : Int := 19

/-- The decimal that a numeral writes. -/
def toDecimal (cs : List Char) : Decimal :=
  let ds := dropLineEnd cs
  ⟨false, digitsValue (whole ds ++ fraction ds), -((fraction ds).length : Int)⟩

/-- The rational that a numeral writes. A numeral with too many digits before its point is refused
by their number alone. -/
def toRational (cs : List Char) : Except Failure Rational :=
  let places := (fraction cs).length
  let ds := significant (whole cs ++ fraction cs)
  let before : Int := (ds.length : Int) - (places : Int)
  if wordDigits < before then .error (.numeralRange before)
  else
    match readInteger ds with
    | .error f => .error f
    | .ok n => Rational.ofParts n (tenPow places)

/-- The value of a numeral. -/
def toValue (p : Precision) (cs : List Char) : Except Failure Value :=
  if !isNumeral cs then .error (.notNumeral (String.ofList cs))
  else if p.exactPlaces < ((fraction cs).length : Int) then Value.ofDecimal (toDecimal cs) p.scale
  else
    match toRational cs with
    | .error f => .error f
    | .ok q => Value.ofRational q p.scale

end Numeral
end Reckoner
