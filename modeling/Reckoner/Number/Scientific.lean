import Reckoner.Number.Decimal

/-!
# Scientific notation

Numbers written with a sign, digits, a fraction and a power of ten. The parts are kept as they are
written, so that a reader of such texts can still tell an integer from a number with a fraction and
can refuse a leading zero.
-/

namespace Reckoner

/-- The parts of a number in scientific notation. -/
structure Scientific where
  negative : Bool
  whole : List Char
  fraction : Option (List Char)
  exponent : Option Int
  deriving DecidableEq, Repr

namespace Scientific

/-- The digits after an exponent mark, with an optional sign; nothing may follow. -/
def exponent? (cs : List Char) : Option Int :=
  let (negative, ds) :=
    match cs with
    | '-' :: rest => (true, rest)
    | '+' :: rest => (false, rest)
    | rest => (false, rest)
  if ds.isEmpty || !ds.all Char.isDigit then none
  else
    let n : Int := Nat.ofDigitChars 10 ds 0
    some (if negative then -n else n)

/-- The parts of a text, if it is a number in scientific notation and nothing else. -/
def ofText? (cs : List Char) : Option Scientific :=
  let (negative, cs) :=
    match cs with
    | '-' :: rest => (true, rest)
    | rest => (false, rest)
  let whole := cs.takeWhile Char.isDigit
  let cs := cs.dropWhile Char.isDigit
  let (fraction, cs) :=
    match cs with
    | '.' :: rest => (some (rest.takeWhile Char.isDigit), rest.dropWhile Char.isDigit)
    | rest => (none, rest)
  if whole.isEmpty || fraction = some [] then none
  else
    match cs with
    | [] => some ⟨negative, whole, fraction, none⟩
    | mark :: rest =>
        if mark = 'e' ∨ mark = 'E' then
          (exponent? rest).map fun e => ⟨negative, whole, fraction, some e⟩
        else none

/-- Whether neither a fraction nor a power of ten is written. -/
def isInteger (s : Scientific) : Bool := s.fraction.isNone && s.exponent.isNone

/-- Whether the digits before the point start with a zero that is not their only digit. -/
def hasLeadingZero (s : Scientific) : Bool :=
  match s.whole with
  | '0' :: _ :: _ => true
  | _ => false

/-- The decimal written, all its digits kept. -/
def toDecimal (s : Scientific) : Decimal :=
  let fraction := s.fraction.getD []
  ⟨s.negative, Nat.ofDigitChars 10 (s.whole ++ fraction) 0,
    s.exponent.getD 0 - (fraction.length : Int)⟩

end Scientific
end Reckoner
