import Reckoner.Json.Printer

/-!
# Schemas

A schema is a list of keywords, each a demand on a JSON value, in the order in which they are
checked. `violations` lists what a value does not meet, with the path to the place in the value and
the keyword that asks for it. A keyword looks only at values of the kind it is about, so a string
meets every demand on objects.
-/

namespace Reckoner
namespace Contract

/-- The kinds of values that schemas tell apart. An integer may be written with a fraction of
zero. -/
inductive Kind where
  | object
  | array
  | string
  | integer
  | null
  deriving DecidableEq, Repr

namespace Kind

/-- The name of a kind. -/
def name : Kind → String
  | object => "object"
  | array => "array"
  | string => "string"
  | integer => "integer"
  | null => "null"

/-- Whether a value is of a kind. -/
def covers : Kind → Json → Bool
  | object, .object _ => true
  | array, .array _ => true
  | string, .string _ => true
  | integer, .integer _ => true
  | integer, .number x => x.toInt?.isSome
  | null, .null => true
  | _, _ => false

end Kind

/-- One demand on a value. -/
inductive Keyword where
  /-- A remark, which demands nothing. -/
  | remark (name text : String)
  /-- The value is of one of the kinds. -/
  | kinds (kinds : List Kind)
  /-- An object has no members but those the schema names. -/
  | noOthers
  /-- An object has all the members. -/
  | required (names : List String)
  /-- Members that are there meet their schemas. -/
  | members (schemas : List (String × List Keyword))
  /-- A number is not below the bound. -/
  | minimum (bound : Int)
  /-- A number is not above the bound. -/
  | maximum (bound : Int)
  /-- A string has at least as many characters. -/
  | minLength (count : Nat)
  /-- The value is one of the strings. -/
  | among (texts : List String)
  /-- Every item of an array meets the schema. -/
  | items (schema : List Keyword)
  /-- The value meets exactly one of the schemas. -/
  | exactlyOne (schemas : List (List Keyword))
  deriving Repr

/-- The demands on a value, in the order in which they are checked. -/
abbrev Schema := List Keyword

namespace Keyword

/-- The name of a keyword in a schema document. -/
def name : Keyword → String
  | remark name _ => name
  | kinds _ => "type"
  | noOthers => "additionalProperties"
  | required _ => "required"
  | members _ => "properties"
  | minimum _ => "minimum"
  | maximum _ => "maximum"
  | minLength _ => "minLength"
  | among _ => "enum"
  | items _ => "items"
  | exactlyOne _ => "oneOf"

/-- The names of the members that a keyword has schemas for. -/
def memberNames : Keyword → List String
  | members schemas => schemas.map Prod.fst
  | _ => []

mutual

/-- The value of a keyword in a schema document. -/
def toJson : Keyword → Json
  | remark _ text => .string text
  | kinds [k] => .string k.name
  | kinds ks => .array (ks.map fun k => .string k.name)
  | noOthers => .boolean false
  | required names => .array (names.map fun name : String => .string name)
  | members schemas => .object (membersToJson schemas)
  | minimum bound => .integer bound
  | maximum bound => .integer bound
  | minLength count => .integer count
  | among texts => .array (texts.map fun text : String => .string text)
  | items schema => .object (schemaToJson schema)
  | exactlyOne schemas => .array (schemasToJson schemas)

/-- The members of a schema document. -/
def schemaToJson : List Keyword → List (CodeString × Json)
  | [] => []
  | k :: rest => (k.name, k.toJson) :: schemaToJson rest

/-- The documents of several schemas. -/
def schemasToJson : List (List Keyword) → List Json
  | [] => []
  | s :: rest => .object (schemaToJson s) :: schemasToJson rest

/-- The documents of the schemas of members. -/
def membersToJson : List (String × List Keyword) → List (CodeString × Json)
  | [] => []
  | (name, s) :: rest => (name, .object (schemaToJson s)) :: membersToJson rest

end

end Keyword

/-- The schema as a JSON document. -/
def Schema.document (s : Schema) : Json := .object (Keyword.schemaToJson s)

/-- The names of the members that a schema has schemas for. -/
def Schema.memberNames (s : Schema) : List String := s.flatMap Keyword.memberNames

/-- A demand that a value does not meet. -/
structure Violation where
  /-- Names and item numbers that lead to the place. -/
  path : List String
  keyword : String
  message : String
  deriving DecidableEq, Repr

namespace Violation

/-- The violation seen from one level further out. -/
def under (step : String) (v : Violation) : Violation := { v with path := step :: v.path }

/-- The order of paths: the first step in which they differ decides, and a path comes before its
continuations. -/
def pathLe : List String → List String → Bool
  | [], _ => true
  | _ :: _, [] => false
  | a :: as, b :: bs => if a = b then pathLe as bs else decide (a < b)

/-- The order by path and then by keyword. -/
def le (a b : Violation) : Bool :=
  if a.path = b.path then decide (a.keyword ≤ b.keyword) else pathLe a.path b.path

/-- Violations ordered by path and then by keyword. -/
def sorted (vs : List Violation) : List Violation := vs.mergeSort le

end Violation

/-- Whether a number is below a bound; other values are not. -/
def isBelow (bound : Int) : Json → Bool
  | .integer n => decide (n < bound)
  | .number x => x.lessThanInt bound
  | _ => false

/-- Whether a number is above a bound; other values are not. -/
def isAbove (bound : Int) : Json → Bool
  | .integer n => decide (bound < n)
  | .number x => x.greaterThanInt bound
  | _ => false

/-- Strings between quote marks, parted by commas. -/
def quotedList (ss : List CodeString) : String := ", ".intercalate (ss.map CodeString.quoted)

/-- The wording for members that a schema does not name. -/
def othersMessage (names : List CodeString) : String :=
  let names := names.mergeSort CodeString.le
  "Additional properties are not allowed (" ++ quotedList names ++
    (if names.length = 1 then " was" else " were") ++ " unexpected)"

/-- The wording for a value that does not meet exactly one of several schemas. -/
def exactlyOneMessage (v : Json) (met : Nat) : String :=
  if met = 0 then v.shown ++ " is not valid under any of the given schemas"
  else v.shown ++ " is valid under more than one of the given schemas"

mutual

/-- The violations of a schema, `named` being the members it names. -/
def schemaViolations (named : List String) : List Keyword → Json → List Violation
  | [], _ => []
  | k :: rest, v => keywordViolations named k v ++ schemaViolations named rest v

/-- The violations of one keyword of a schema that names the members `named`. -/
def keywordViolations (named : List String) : Keyword → Json → List Violation
  | .remark _ _, _ => []
  | .kinds ks, v =>
      if ks.any fun k => k.covers v then []
      else [⟨[], "type", v.shown ++ " is not of type " ++ quotedList (ks.map fun k => k.name)⟩]
  | .noOthers, .object members =>
      let others := (members.map Prod.fst).filter fun name =>
        !named.any fun known => .ofString known == name
      if others.isEmpty then [] else [⟨[], "additionalProperties", othersMessage others⟩]
  | .required names, .object members =>
      (names.filter fun name : String => (members.lookup (name : CodeString)).isNone).map fun name =>
        ⟨[], "required", Text.quoted name ++ " is a required property"⟩
  | .members schemas, .object members => memberViolations schemas members
  | .minimum bound, v =>
      if isBelow bound v then
        [⟨[], "minimum", v.shown ++ " is less than the minimum of " ++ bound.repr⟩]
      else []
  | .maximum bound, v =>
      if isAbove bound v then
        [⟨[], "maximum", v.shown ++ " is greater than the maximum of " ++ bound.repr⟩]
      else []
  | .minLength count, .string s =>
      if s.length < count then
        [⟨[], "minLength",
          s.quoted ++ (if count = 1 then " should be non-empty" else " is too short")⟩]
      else []
  | .among texts, v =>
      if texts.any fun t => match v with | .string s => s == t | _ => false then []
      else [⟨[], "enum", v.shown ++ " is not one of [" ++ quotedList (texts.map .ofString) ++ "]"⟩]
  | .items schema, .array values =>
      values.zipIdx.flatMap fun x =>
        (schemaViolations (Schema.memberNames schema) schema x.1).map (Violation.under x.2.repr)
  | .exactlyOne schemas, v =>
      let met := countMet schemas v
      if met = 1 then [] else [⟨[], "oneOf", exactlyOneMessage v met⟩]
  | _, _ => []

/-- The violations in the members of an object. -/
def memberViolations :
    List (String × List Keyword) → List (CodeString × Json) → List Violation
  | [], _ => []
  | (name, schema) :: rest, members =>
      (match members.lookup (name : CodeString) with
        | some v =>
            (schemaViolations (Schema.memberNames schema) schema v).map (Violation.under name)
        | none => []) ++
        memberViolations rest members

/-- How many of the schemas a value meets. -/
def countMet : List (List Keyword) → Json → Nat
  | [], _ => 0
  | schema :: rest, v =>
      (if (schemaViolations (Schema.memberNames schema) schema v).isEmpty then 1 else 0) +
        countMet rest v

end

namespace Schema

/-- The demands of a schema that a value does not meet, in the order of the schema. -/
def violations (s : Schema) (v : Json) : List Violation := schemaViolations s.memberNames s v

/-- Whether a value meets a schema. -/
def accepts (s : Schema) (v : Json) : Bool := (s.violations v).isEmpty

/-- The first demand that a value does not meet, as an error. -/
def check (s : Schema) (v : Json) : Except Violation Unit :=
  match s.violations v with
  | [] => .ok ()
  | first :: _ => .error first

end Schema
end Contract
end Reckoner
