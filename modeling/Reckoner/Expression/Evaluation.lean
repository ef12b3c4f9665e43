import Reckoner.Expression.Implied
import Reckoner.Expression.Postfix
import Reckoner.Number.Numeral

/-!
# Evaluation

A postfix form is folded on a stack of values: a numeral is pushed, an operator replaces the two
values above by one. A token that is neither consumes two values and leaves none, which is recorded
as an event. Events are kept in order, also where the evaluation fails after them.
-/

namespace Reckoner
namespace Expression

/-- What is worth noting during an evaluation. -/
inductive Event where
  /-- The postfix form that is evaluated. -/
  | converted (tokens : List Token)
  /-- A token that is neither a numeral nor an operator, and the two values it consumed. -/
  | discarded (token : List Char) (left right : Value)
  deriving DecidableEq, Repr

namespace Event

/-- The wording of an event. -/
def message : Event → String
  | converted tokens => "Postfix: " ++ String.ofList (showPostfix tokens)
  | discarded token left right =>
      "Unrecognized token " ++ String.ofList (Text.quote token) ++ ": operands " ++ left.text ++
        " and " ++ right.text ++ " discarded"

/-- Whether an event tells of values that were lost. -/
def isWarning : Event → Bool
  | converted _ => false
  | discarded _ _ _ => true

end Event

/-- A result together with the events on the way to it. -/
structure Outcome (α : Type) where
  events : List Event
  result : Except Failure α

namespace Outcome

/-- The same outcome after one more event. -/
def after {α : Type} (e : Event) (o : Outcome α) : Outcome α := { o with events := e :: o.events }

/-- A result without events. -/
def plain {α : Type} (r : Except Failure α) : Outcome α := ⟨[], r⟩

/-- The wordings of the events that tell of lost values. -/
def warnings {α : Type} (o : Outcome α) : List String :=
  (o.events.filter Event.isWarning).map Event.message

end Outcome

/-- The value of an evaluation whose tokens are used up. -/
def conclude : List Value → Except Failure Value
  | [] => .error .noValue
  | [v] => .ok v
  | vs => .error (.valuesLeft vs.length)

/-- Evaluates the remaining tokens on a stack, the latest value first. -/
def foldTokens (p : Precision) (stack : List Value) : List Token → Outcome Value
  | [] => .plain (conclude stack)
  | .operand cs :: rest =>
      if Numeral.isNumeral cs then
        match Numeral.toValue p cs with
        | .error f => .plain (.error f)
        | .ok v => foldTokens p (v :: stack) rest
      else
        match stack with
        | right :: left :: stack => (foldTokens p stack rest).after (.discarded cs left right)
        | _ => .plain (.error (.missingOperand (String.ofList cs)))
  | .operator op :: rest =>
      match stack with
      | right :: left :: stack =>
          match op.apply left right with
          | .error f => .plain (.error f)
          | .ok v => foldTokens p (v :: stack) rest
      | _ => .plain (.error (.missingOperand (String.singleton op.symbol)))

/-- The value of a text in postfix form. -/
def evaluatePostfix (p : Precision) (cs : List Char) : Outcome Value :=
  foldTokens p [] (readPostfix cs)

/-- The value of an infix expression. -/
def evaluate (p : Precision) (cs : List Char) : Outcome Value :=
  match toPostfix (insertProducts cs) with
  | .error f => .plain (.error f)
  | .ok tokens => (foldTokens p [] tokens).after (.converted tokens)

/-- The value of an infix expression as it is written. -/
def calculate (p : Precision) (cs : List Char) : Outcome String :=
  let o := evaluate p cs
  ⟨o.events, o.result.map Value.text⟩

end Expression
end Reckoner
