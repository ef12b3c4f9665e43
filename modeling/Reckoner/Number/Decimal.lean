import Reckoner.Failure
import Reckoner.Number.HalfUp

/-!
# Decimals

A decimal is a signed coefficient times a power of ten. Coefficients are never rounded and
exponents are kept, so the same number has many decimals: `1.5` and `1.50` differ in form, and a
zero may carry a sign. Only `text` forgets the form.
-/

namespace Reckoner

/-- The number `± coefficient · 10 ^ exponent`. -/
structure Decimal where
  negative : Bool
  coefficient : Nat
  exponent : Int
  deriving DecidableEq, Repr

namespace Decimal

/-- `q` units of the last of `places` places after the point. -/
def ofUnits (q : Int) (places : Nat) : Decimal := ⟨decide (q < 0), q.natAbs, -(places : Int)⟩

/-- The coefficient with its sign. -/
def signed (d : Decimal) : Int := if d.negative then -(d.coefficient : Int) else d.coefficient

/-- Numerator of the number over a power of ten. -/
def num (d : Decimal) : Int := d.signed * tenPow d.exponent.toNat

/-- The power of ten below the numerator. -/
def den (d : Decimal) : Nat := tenPow (-d.exponent).toNat

/-- Digits after the point. -/
def places (d : Decimal) : Nat := (-d.exponent).toNat

/-- Whether the number is zero, of either sign. -/
def isZero (d : Decimal) : Bool := d.coefficient == 0

/-- Whether two decimals are the same number. -/
def sameNumber (a b : Decimal) : Bool := a.num * b.den == b.num * a.den

/-- The opposite number; a zero changes its sign too. -/
def neg (d : Decimal) : Decimal := { d with negative := !d.negative }

/-- The coefficient in units of `10 ^ e`, for an `e` not above the exponent. -/
def unitsAt (e : Int) (d : Decimal) : Int := d.signed * tenPow (d.exponent - e).toNat

/-- The exact sum at the finer of the two exponents; a sum of zero is negative only if both
operands are. -/
def add (a b : Decimal) : Decimal :=
  let e := min a.exponent b.exponent
  let sum := a.unitsAt e + b.unitsAt e
  ⟨if sum = 0 then a.negative && b.negative else decide (sum < 0), sum.natAbs, e⟩

/-- The exact difference. -/
def subtract (a b : Decimal) : Decimal := a.add b.neg

/-- The exact product. -/
def multiply (a b : Decimal) : Decimal :=
  ⟨a.negative != b.negative, a.coefficient * b.coefficient, a.exponent + b.exponent⟩

/-- The quotient of two integers with `places` places after the point, rounded half up. -/
def halfUp (n d : Int) (places : Nat) : Decimal :=
  ofUnits (roundQuotient (n * tenPow places) d) places

/-- The quotient of two integers with `scale` places, unless the divisor is zero or the scale is
negative. -/
def divideIntegers (n d scale : Int) : Except Failure Decimal :=
  if d = 0 then .error (.zeroDivisor none)
  else if scale < 0 then .error (Failure.negativeScale scale).worded
  else .ok (halfUp n d scale.toNat)

/-- Zeros at the end of a fraction carry no value. -/
def dropFinalZeros (ds : List Char) : List Char := (ds.reverse.dropWhile (· == '0')).reverse

/-- The digits of `n`, filled with zeros on the left to `width`. -/
def padDigits (width n : Nat) : List Char :=
  let ds := Nat.toDigits 10 n
  List.replicate (width - ds.length) '0' ++ ds

/-- The magnitude `n / 10 ^ places` in plain notation, without zeros at the end of its fraction. -/
def plain (n places : Nat) : List Char :=
  let fraction := dropFinalZeros (padDigits places (n % tenPow places))
  Nat.toDigits 10 (n / tenPow places) ++ (if fraction.isEmpty then [] else '.' :: fraction)

/-- Plain notation: no exponent, no final zeros, zero without a sign. -/
def text (d : Decimal) : String :=
  if d.isZero then "0"
  else
    String.ofList ((if d.negative then ['-'] else []) ++
      plain (d.coefficient * tenPow d.exponent.toNat) d.places)

/-- The quotient rounded half up to `scale` places, or to the places of the dividend where those
are more. -/
def divide (scale : Nat) (a b : Decimal) : Except Failure Decimal :=
  if b.isZero then .error (.zeroDivisor (some a.text))
  else .ok (halfUp (a.num * b.den) (a.den * b.num) (max scale a.places))

end Decimal
end Reckoner
