import Reckoner.Number.Binary64
import Reckoner.Text.CodeString

/-!
# JSON values

Integers and floating-point numbers are kept apart, strings are sequences of code points, and an
object is the list of its members in order. Writing a member that is already there changes its value
and keeps its place.
-/

namespace Reckoner

/-- A JSON value. -/
inductive Json where
  | null
  | boolean (b : Bool)
  | integer (n : Int)
  | number (x : Binary64)
  | string (s : CodeString)
  | array (items : List Json)
  | object (members : List (CodeString × Json))
  deriving Repr

namespace Json

/-- The members after one is written: in its place if the name is there, else at the end. -/
def put (name : CodeString) (value : Json) : List (CodeString × Json) → List (CodeString × Json)
  | [] => [(name, value)]
  | m :: rest => if m.1 = name then (name, value) :: rest else m :: put name value rest

theorem lookup_put_self (name : CodeString) (value : Json) (members : List (CodeString × Json)) :
    (put name value members).lookup name = some value := by
  induction members with
  | nil => simp [put]
  | cons m rest ih =>
    unfold put
    split
    · simp
    · rename_i h
      rw [List.lookup_cons, beq_false_of_ne (Ne.symm h)]
      exact ih

theorem lookup_put_of_ne {name other : CodeString} (h : other ≠ name) (value : Json)
    (members : List (CodeString × Json)) :
    (put name value members).lookup other = members.lookup other := by
  induction members with
  | nil => simp [put, List.lookup_cons, beq_false_of_ne h]
  | cons m rest ih =>
    unfold put
    split
    · rename_i hm
      obtain ⟨first, v⟩ := m
      subst hm
      simp [List.lookup_cons, beq_false_of_ne h]
    · rw [List.lookup_cons, List.lookup_cons, ih]

/-- The members after several are written in order: of equal names the last value counts, at the
place of the first. -/
def ofMembers (members : List (CodeString × Json)) : Json :=
  object (members.foldl (fun done m => put m.1 m.2 done) [])

/-- The value of a member. -/
def member? (name : String) : Json → Option Json
  | object members => members.lookup (name : CodeString)
  | _ => none

/-- A text, or nothing. -/
def ofOption : Option String → Json
  | some s => string s
  | none => null

end Json
end Reckoner
