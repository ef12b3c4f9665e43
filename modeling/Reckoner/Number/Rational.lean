import Reckoner.Number.Decimal

/-!
# Rationals of two words

A rational is a reduced fraction whose parts fit signed 64-bit words. The type carries these facts,
so `Rational.ofParts` is the only place that can fail for its parts: it reduces first and looks at
the range of what is left, so large intermediate products do no harm when they cancel.
-/

namespace Reckoner

/-- The least signed 64-bit word. -/
def leastWord : Int := -9223372036854775808

/-- The greatest signed 64-bit word. -/
def greatestWord : Int := 9223372036854775807

/-- Whether a reduced fraction fits two words. -/
def FitsWords (num : Int) (den : Nat) : Prop :=
  leastWord ≤ num ∧ num ≤ greatestWord ∧ (den : Int) ≤ greatestWord

instance (num : Int) (den : Nat) : Decidable (FitsWords num den) := by
  unfold FitsWords; infer_instance

/-- A reduced fraction with a positive denominator, both parts within a word. -/
structure Rational where
  num : Int
  den : Nat
  den_pos : 0 < den
  reduced : num.natAbs.Coprime den
  fits : FitsWords num den
  deriving DecidableEq, Repr

namespace Rational

/-- Numerator of `n / d` in lowest terms; it carries the sign. -/
def reducedNum (n d : Int) : Int :=
  let magnitude : Int := (n.natAbs / Int.gcd n d : Nat)
  if (n < 0) = (d < 0) then magnitude else -magnitude

/-- Denominator of `n / d` in lowest terms. -/
def reducedDen (n d : Int) : Nat := d.natAbs / Int.gcd n d

theorem gcd_pos_of_ne_zero {n d : Int} (hd : d ≠ 0) : 0 < Int.gcd n d :=
  Nat.pos_of_ne_zero fun h => hd (Int.gcd_eq_zero_iff.mp h).2

theorem natAbs_reducedNum (n d : Int) : (reducedNum n d).natAbs = n.natAbs / Int.gcd n d := by
  unfold reducedNum
  simp only
  split <;> simp only [Int.natAbs_neg, Int.natAbs_natCast]

theorem reducedDen_pos {n d : Int} (hd : d ≠ 0) : 0 < reducedDen n d :=
  Nat.div_pos (Nat.le_of_dvd (Int.natAbs_pos.mpr hd) (Nat.gcd_dvd_right _ _))
    (gcd_pos_of_ne_zero hd)

theorem coprime_reduced {n d : Int} (hd : d ≠ 0) :
    (reducedNum n d).natAbs.Coprime (reducedDen n d) := by
  rw [natAbs_reducedNum]
  exact Nat.coprime_div_gcd_div_gcd (gcd_pos_of_ne_zero hd)

/-- The rational `n / d`, unless `d` is zero or the reduced parts do not fit. -/
def ofParts (n d : Int) : Except Failure Rational :=
  if hd : d = 0 then .error .zeroDenominator
  else if hf : FitsWords (reducedNum n d) (reducedDen n d) then
    .ok ⟨reducedNum n d, reducedDen n d, reducedDen_pos hd, coprime_reduced hd, hf⟩
  else .error (Failure.fractionRange (reducedNum n d) (reducedDen n d)).worded

/-- Whether the rational is zero. -/
def isZero (q : Rational) : Bool := q.num == 0

/-- An integer alone, any other rational with its denominator. -/
def text (q : Rational) : String :=
  if q.den = 1 then q.num.repr else q.num.repr ++ "/" ++ q.den.repr

/-- The sum. -/
def add (a b : Rational) : Except Failure Rational :=
  ofParts (a.num * b.den + b.num * a.den) (a.den * b.den : Nat)

/-- The difference. -/
def subtract (a b : Rational) : Except Failure Rational :=
  ofParts (a.num * b.den - b.num * a.den) (a.den * b.den : Nat)

/-- The product. -/
def multiply (a b : Rational) : Except Failure Rational :=
  ofParts (a.num * b.num) (a.den * b.den : Nat)

/-- The quotient, unless the divisor is zero. -/
def divide (a b : Rational) : Except Failure Rational :=
  if b.isZero then .error (.zeroDivisor (some a.text))
  else ofParts (a.num * b.den) (a.den * b.num)

/-- The decimal with `places` places nearest to the rational, halves going away from zero. -/
def rounded (q : Rational) (places : Nat) : Decimal := Decimal.halfUp q.num q.den places

/-- `rounded` for a scale that may be out of range. -/
def toDecimal (q : Rational) (scale : Int) : Except Failure Decimal :=
  Decimal.divideIntegers q.num q.den scale

end Rational
end Reckoner
