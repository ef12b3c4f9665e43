import Reckoner.Number.Decimal

/-!
# Binary floating point

Numbers of 53 binary digits: the one nearest to a decimal (halves to even), comparison with
integers, and the shortest decimal that reads back as the same number.

A finite number is `significand · 2 ^ exponent` with `significand < 2 ^ 53` and
`-1074 ≤ exponent ≤ 971`; unless the exponent is the least, the significand has all its digits.
-/

namespace Reckoner

/-- A binary floating-point number. -/
inductive Binary64 where
  | finite (negative : Bool) (significand : Nat) (exponent : Int)
  | infinite (negative : Bool)
  | nan
  deriving DecidableEq, Repr

namespace Binary64

/-- `2` to the power `n`. -/
def twoPow (n : Nat) : Nat := Nat.pow 2 n

/-- The integer nearest to `n / d`, halves going to the even neighbour. -/
def roundToEven (n d : Nat) : Nat :=
  let q := n / d
  let twice := 2 * (n % d)
  if d < twice ∨ (d = twice ∧ q % 2 = 1) then q + 1 else q

/-- The least exponent. -/
def leastExponent : Int := -1074

/-- The greatest exponent. -/
def greatestExponent : Int := 971

/-- `n / d` in units of `2 ^ e`, rounded. -/
def unitsAt (e : Int) (n d : Nat) : Nat := roundToEven (n * twoPow (-e).toNat) (d * twoPow e.toNat)

/-- The exponent at which a positive `n / d` has 53 binary digits, or the least exponent. -/
def exponentFor (n d : Nat) : Int :=
  let guess : Int := (Nat.log2 n : Int) - (Nat.log2 d : Int) - 52
  let tooCoarse := n * twoPow (-guess).toNat < twoPow 52 * (d * twoPow guess.toNat)
  max leastExponent (if tooCoarse then guess - 1 else guess)

/-- The floating-point number nearest to the fraction `n / d`. -/
def ofFraction (negative : Bool) (n d : Nat) : Binary64 :=
  if n = 0 then finite negative 0 leastExponent
  else
    let e := exponentFor n d
    let m := unitsAt e n d
    let (m, e) := if m = twoPow 53 then (twoPow 52, e + 1) else (m, e)
    if greatestExponent < e then infinite negative else finite negative m e

/-- The floating-point number nearest to a decimal. Magnitudes from `10 ^ 310` on and below
`10 ^ -330` are settled by their number of digits. -/
def ofDecimal (d : Decimal) : Binary64 :=
  let top : Int := ((Nat.toDigits 10 d.coefficient).length : Int) + d.exponent
  if d.coefficient = 0 ∨ top < -330 then finite d.negative 0 leastExponent
  else if 310 < top then infinite d.negative
  else ofFraction d.negative (d.coefficient * tenPow d.exponent.toNat) d.den

/-- Numerator of a finite number with a power of two below it. -/
def magnitudeNum (m : Nat) (e : Int) : Nat := m * twoPow e.toNat

/-- The power of two below the numerator. -/
def magnitudeDen (e : Int) : Nat := twoPow (-e).toNat

/-- The integer that the number is, if it is one. -/
def toInt? : Binary64 → Option Int
  | finite negative m e =>
      if magnitudeNum m e % magnitudeDen e = 0 then
        let n : Int := (magnitudeNum m e / magnitudeDen e : Nat)
        some (if negative then -n else n)
      else none
  | _ => none

/-- Whether the number is below an integer. -/
def lessThanInt (x : Binary64) (bound : Int) : Bool :=
  match x with
  | finite negative m e =>
      let n : Int := magnitudeNum m e
      decide ((if negative then -n else n) < bound * magnitudeDen e)
  | infinite negative => negative
  | nan => false

/-- Whether the number is above an integer. -/
def greaterThanInt (x : Binary64) (bound : Int) : Bool :=
  match x with
  | finite negative m e =>
      let n : Int := magnitudeNum m e
      decide (bound * magnitudeDen e < (if negative then -n else n))
  | infinite negative => !negative
  | nan => false

section Shortest

/-- Twice the distance from `n / d` to `units · 10 ^ k`, over a common denominator. -/
def gridDistance (n d units : Nat) (k : Int) : Nat :=
  let x : Int := n * tenPow (-k).toNat
  let y : Int := units * tenPow k.toNat * d
  (x - y).natAbs

/-- Whether `units · 10 ^ k` reads back as `m · 2 ^ e`. -/
def readsBack (m : Nat) (e : Int) (units : Nat) (k : Int) : Bool :=
  ofFraction false (units * tenPow k.toNat) (tenPow (-k).toNat) == finite false m e

/-- Two neighbours on the grid of `10 ^ k`, the one nearer to `n / d` first, or the even one if both
are as near. -/
def byDistance (n d low : Nat) (k : Int) : List Nat :=
  let below := gridDistance n d low k
  let above := gridDistance n d (low + 1) k
  if above < below ∨ (above = below ∧ low % 2 = 1) then [low + 1, low] else [low, low + 1]

/-- The multiple of `10 ^ k` nearest to `m · 2 ^ e` that reads back as it, if a neighbour does. -/
def onGrid? (m : Nat) (e k : Int) : Option Nat :=
  let n := magnitudeNum m e
  let d := magnitudeDen e
  let low := n * tenPow (-k).toNat / (d * tenPow k.toNat)
  (byDistance n d low k).find? fun units => readsBack m e units k

/-- The first grid, from `10 ^ k` downwards, with a multiple that reads back; at most `steps`
grids are tried. -/
def firstGrid (m : Nat) (e : Int) : Nat → Int → Nat × Int
  | 0, k => (0, k)
  | steps + 1, k =>
      match onGrid? m e k with
      | some units => (units, k)
      | none => firstGrid m e steps (k - 1)

/-- Upper bound on the decimal exponent of `m · 2 ^ e`: `m · 2 ^ e < 10 ^ topPlace`. -/
def topPlace (m : Nat) (e : Int) : Int :=
  let n := magnitudeNum m e
  let d := magnitudeDen e
  ((Nat.toDigits 10 n).length : Int) - ((Nat.toDigits 10 d).length : Int) + 1

/-- The shortest digits, and the place of the point after which they start: the number is
`0.digits · 10 ^ point`. -/
def shortestDigits (m : Nat) (e : Int) : List Char × Int :=
  let (units, k) := firstGrid m e 19 (topPlace m e)
  let ds := Nat.toDigits 10 units
  (Decimal.dropFinalZeros ds, (ds.length : Int) + k)

/-- The text of a positive number from its digits: positional when the point falls from four
places before the digits to sixteen after their start, else with an exponent of two digits or
more. -/
def layOut (ds : List Char) (point : Int) : List Char :=
  if -4 < point ∧ point ≤ 16 then
    if point ≤ 0 then "0.".toList ++ List.replicate (-point).toNat '0' ++ ds
    else
      let n := point.toNat
      if ds.length ≤ n then ds ++ List.replicate (n - ds.length) '0' ++ ".0".toList
      else ds.take n ++ '.' :: ds.drop n
  else
    let e := point - 1
    let mantissa :=
      match ds with
      | [] => []
      | [c] => [c]
      | c :: rest => c :: '.' :: rest
    mantissa ++ 'e' :: (if e < 0 then '-' else '+') :: Decimal.padDigits 2 e.natAbs

/-- The shortest text that reads back as the number. -/
def text : Binary64 → String
  | nan => "nan"
  | infinite negative => if negative then "-inf" else "inf"
  | finite negative m e =>
      let magnitude :=
        if m = 0 then "0.0".toList
        else
          let (ds, point) := shortestDigits m e
          layOut ds point
      String.ofList (if negative then '-' :: magnitude else magnitude)

end Shortest

end Binary64
end Reckoner
