import Reckoner.Number.Value

/-!
# Operators

The four operations of an expression, their symbols and how tightly they bind.
-/

namespace Reckoner

/-- Sum, difference, product and quotient. -/
inductive Operator where
  | plus
  | minus
  | times
  | dividedBy
  deriving DecidableEq, Repr

namespace Operator

/-- All operators. -/
def all : List Operator := [plus, minus, times, dividedBy]

/-- The character that stands for an operator. -/
def symbol : Operator → Char
  | plus => '+'
  | minus => '-'
  | times => '*'
  | dividedBy => '/'

/-- The operator that a character stands for. -/
def ofChar? : Char → Option Operator
  | '+' => some plus
  | '-' => some minus
  | '*' => some times
  | '/' => some dividedBy
  | _ => none

theorem ofChar?_symbol (op : Operator) : ofChar? op.symbol = some op := by
  cases op <;> rfl

theorem symbol_of_ofChar? {c : Char} {op : Operator} (h : ofChar? c = some op) :
    op.symbol = c := by
  unfold ofChar? at h
  split at h <;> first | contradiction | (cases h; rfl)

/-- The operator that a text stands for. -/
def ofText? : List Char → Option Operator
  | [c] => ofChar? c
  | _ => none

/-- How tightly an operator binds. -/
def rank : Operator → Nat
  | plus => 1
  | minus => 1
  | times => 2
  | dividedBy => 2

/-- How tightly a text binds as an operator; a text that is no operator binds least. -/
def precedence (cs : List Char) : Int :=
  match ofText? cs with
  | some op => op.rank
  | none => -1

/-- The value of an operation. -/
def apply : Operator → Value → Value → Except Failure Value
  | plus => Value.add
  | minus => Value.subtract
  | times => Value.multiply
  | dividedBy => Value.divide

end Operator
end Reckoner
