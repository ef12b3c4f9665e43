import Reckoner.Json.Basic
import Reckoner.Number.Rational

/-!
# Fractions from JSON values

A fraction whose parts are handed over as JSON values. Booleans count as 0 and 1; any other value
that is no integer is refused, and the refusal names the types of both parts. The types are looked
at before the denominator is.
-/

namespace Reckoner
namespace Json

/-- The integer that a value stands for as part of a fraction. -/
def wholePart? : Json → Option Int
  | integer n => some n
  | boolean b => some (if b then 1 else 0)
  | _ => none

/-- The name of a value's type. -/
def typeName : Json → String
  | null => "NoneType"
  | boolean _ => "bool"
  | integer _ => "int"
  | number _ => "float"
  | string _ => "str"
  | array _ => "list"
  | object _ => "dict"

/-- The fraction of two values. -/
def toRational (num den : Json) : Except Failure Rational :=
  match num.wholePart?, den.wholePart? with
  | some n, some d => Rational.ofParts n d
  | _, _ => .error (.partTypes num.typeName den.typeName)

end Json
end Reckoner
