import Reckoner.Number.Rational

/-!
# Values

A value is exact (a rational) or approximate (a decimal), and carries the number of places, its
scale, to which it is rounded when it has to become a decimal. One approximate operand makes the
result approximate; nothing leads back.
-/

namespace Reckoner

/-- An exact or an approximate number. -/
inductive Number where
  | exact (q : Rational)
  | approximate (d : Decimal)
  deriving DecidableEq, Repr

namespace Number

/-- Whether the number is exact. -/
def isExact : Number → Bool
  | exact _ => true
  | approximate _ => false

/-- The number as a decimal; an exact one is rounded to `places` places. -/
def toDecimal (places : Nat) : Number → Decimal
  | exact q => q.rounded places
  | approximate d => d

/-- How the number is written. -/
def text : Number → String
  | exact q => q.text
  | approximate d => d.text

/-- Whether two numbers are of one kind and equal. -/
def same : Number → Number → Bool
  | exact p, exact q => p == q
  | approximate a, approximate b => a.sameNumber b
  | _, _ => false

end Number

/-- A number and the places to which it is rounded when it becomes a decimal. -/
structure Value where
  number : Number
  scale : Nat
  scale_pos : 1 ≤ scale
  deriving DecidableEq, Repr

namespace Value

/-- A number with a scale, which has to be at least one. -/
def ofNumber (number : Number) (scale : Int) : Except Failure Value :=
  if h : scale < 1 then .error (Failure.scaleBelowOne scale).worded
  else .ok ⟨number, scale.toNat, by omega⟩

/-- An exact value. -/
def ofRational (q : Rational) (scale : Int) : Except Failure Value := ofNumber (.exact q) scale

/-- An approximate value. -/
def ofDecimal (d : Decimal) (scale : Int) : Except Failure Value := ofNumber (.approximate d) scale

/-- A value declared exact or approximate, with the payloads that were handed over: the scale is
looked at first, then whether the one fitting payload is there and no other. -/
def ofPayloads (declaredExact : Bool) (q : Option Rational) (d : Option Decimal) (scale : Int) :
    Except Failure Value :=
  if scale < 1 then .error (Failure.scaleBelowOne scale).worded
  else
    match declaredExact, q, d with
    | true, some q, none => ofRational q scale
    | true, _, _ => .error .exactPayload
    | false, none, some d => ofDecimal d scale
    | false, _, _ => .error .approximatePayload

/-- How the value is written. -/
def text (v : Value) : String := v.number.text

/-- Whether two values agree in kind, number and scale. -/
def same (a b : Value) : Bool := a.number.same b.number && a.scale == b.scale

/-- The value as a decimal with `scale` places, those of the value if none are given; an approximate
value stays as it is. -/
def toDecimal (v : Value) (scale : Option Int) : Except Failure Decimal :=
  match v.number with
  | .exact q => q.toDecimal (scale.getD v.scale)
  | .approximate d => .ok d

/-- One operation in its two readings. -/
structure Operation where
  exact : Rational → Rational → Except Failure Rational
  approximate : Nat → Decimal → Decimal → Except Failure Decimal

/-- Two exact operands stay exact; otherwise both become decimals at the larger scale. -/
def apply (op : Operation) (a b : Value) : Except Failure Value :=
  let scale := max a.scale b.scale
  have pos : 1 ≤ scale := Nat.le_trans a.scale_pos (Nat.le_max_left _ _)
  match a.number, b.number with
  | .exact p, .exact q => (op.exact p q).map fun r => ⟨.exact r, scale, pos⟩
  | x, y =>
      (op.approximate scale (x.toDecimal scale) (y.toDecimal scale)).map fun d =>
        ⟨.approximate d, scale, pos⟩

/-- The sum. -/
def add : Value → Value → Except Failure Value :=
  apply ⟨Rational.add, fun _ a b => .ok (a.add b)⟩

/-- The difference. -/
def subtract : Value → Value → Except Failure Value :=
  apply ⟨Rational.subtract, fun _ a b => .ok (a.subtract b)⟩

/-- The product. -/
def multiply : Value → Value → Except Failure Value :=
  apply ⟨Rational.multiply, fun _ a b => .ok (a.multiply b)⟩

/-- The quotient. -/
def divide : Value → Value → Except Failure Value := apply ⟨Rational.divide, Decimal.divide⟩

end Value
end Reckoner
