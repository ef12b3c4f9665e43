import Reckoner.Contract.Pattern.Nesting
import Reckoner.Json.Basic

/-!
# The language of schemas

Which JSON values are schema documents. A boolean is one, and so is an object if every member whose
name is a keyword has a value of the form that the keyword asks for. Members with other names are
passed over.

`Form.defects` lists what is wrong with a value. Defects come in the order of the keywords, whatever
the order of the members; those of a list or of members by name in their own order.
-/

namespace Reckoner
namespace Contract

/-- What is wrong with a value as a schema document. -/
inductive Defect where
  /-- A value has not the form that is asked for. -/
  | misfit
  /-- A search pattern asks for something impossible. -/
  | pattern (f : Pattern.Fault)
  deriving DecidableEq, Repr

namespace Defect

/-- A search pattern in characters. Half of a pair is written as its escape, with a backslash before it
or without. -/
def patternChars : CodeString → List Char
  | [] => []
  | .char '\x5c' :: .char c :: rest => '\x5c' :: c :: patternChars rest
  | .char '\x5c' :: .half i :: rest => CodePoint.halfEscape i ++ patternChars rest
  | .char c :: rest => c :: patternChars rest
  | .half i :: rest => CodePoint.halfEscape i ++ patternChars rest

/-- The defects of a search pattern. A string that is no pattern has the wrong form. -/
def ofPattern (s : CodeString) : List Defect :=
  match Pattern.fault? (patternChars s) with
  | none => []
  | some .malformed => [misfit]
  | some f => [pattern f]

/-- The defects of a value that has a form or has not. -/
def ofFit (fits : Bool) : List Defect := if fits then [] else [misfit]

/-- The one defect of a value that fits none of several forms. -/
def alternative (ds : List Defect) : List Defect :=
  match ds.find? (· != misfit) with
  | some d => [d]
  | none => ofFit ds.isEmpty

end Defect

/-- The forms that the values of keywords take. -/
inductive Form where
  | schema
  | schemas
  | schemasByName
  | schemasByPattern
  | schemaOrNamesByName
  | namesByName
  | flagsByName
  | text
  | identifier
  | anchor
  | pattern
  | flag
  | anyList
  | names
  | kinds
  | number
  | positiveNumber
  | count
  deriving DecidableEq, Repr

namespace Form

/-- The keywords and the forms of their values. -/
def ofKeywords : List (String × Form) := [
  ("$id", identifier), ("$schema", text), ("$ref", text), ("$anchor", anchor),
  ("$dynamicRef", text), ("$dynamicAnchor", anchor), ("$vocabulary", flagsByName),
  ("$comment", text), ("$defs", schemasByName),
  ("prefixItems", schemas), ("items", schema), ("contains", schema),
  ("additionalProperties", schema), ("properties", schemasByName),
  ("patternProperties", schemasByPattern), ("dependentSchemas", schemasByName),
  ("propertyNames", schema), ("if", schema), ("then", schema), ("else", schema),
  ("allOf", schemas), ("anyOf", schemas), ("oneOf", schemas), ("not", schema),
  ("unevaluatedItems", schema), ("unevaluatedProperties", schema),
  ("type", kinds), ("enum", anyList), ("multipleOf", positiveNumber),
  ("maximum", number), ("exclusiveMaximum", number), ("minimum", number),
  ("exclusiveMinimum", number), ("maxLength", count), ("minLength", count),
  ("pattern", pattern), ("maxItems", count), ("minItems", count), ("uniqueItems", flag),
  ("maxContains", count), ("minContains", count), ("maxProperties", count),
  ("minProperties", count), ("required", names), ("dependentRequired", namesByName),
  ("title", text), ("description", text), ("deprecated", flag), ("readOnly", flag),
  ("writeOnly", flag), ("examples", anyList), ("format", text),
  ("contentEncoding", text), ("contentMediaType", text), ("contentSchema", schema),
  ("definitions", schemasByName), ("dependencies", schemaOrNamesByName),
  ("$recursiveAnchor", anchor), ("$recursiveRef", text)]

/-- The form that the value of a member with a name takes, if the name is a keyword. -/
def ofName? (name : CodeString) : Option Form :=
  name.toString?.bind fun name => ofKeywords.lookup name

section Plain

/-- The names of the kinds of values. -/
def kindNames : List String :=
  ["array", "boolean", "integer", "null", "number", "object", "string"]

/-- Whether a string is the name of a kind. -/
def isKindName (s : CodeString) : Bool := s.toString?.any kindNames.contains

/-- The strings of a list without any other value. -/
def strings? : List Json → Option (List CodeString)
  | [] => some []
  | .string s :: rest => (strings? rest).map fun more => s :: more
  | _ => none

/-- Whether no string occurs twice. -/
def allDifferent : List CodeString → Bool
  | [] => true
  | s :: rest => !rest.contains s && allDifferent rest

/-- Whether a value is a list of different strings. -/
def areNames : Json → Bool
  | .array vs => (strings? vs).any allDifferent
  | _ => false

/-- Whether a value is the name of a kind, or a list of at least one, all different. -/
def areKinds : Json → Bool
  | .string s => isKindName s
  | .array vs =>
      (strings? vs).any fun ss => !ss.isEmpty && allDifferent ss && ss.all isKindName
  | _ => false

/-- A string without one line feed at its end. -/
def dropLineFeed (s : CodeString) : CodeString :=
  if s.getLast? = some (.char '\n') then s.dropLast else s

/-- Whether a string names a document: no part of one follows after a hash. -/
def isIdentifier (s : CodeString) : Bool :=
  let rest := s.dropWhile (· != .char '#')
  rest.isEmpty || dropLineFeed rest == [.char '#']

/-- Whether a string names a place in a document. -/
def isAnchor (s : CodeString) : Bool :=
  match (dropLineFeed s).toChars? with
  | some (c :: rest) =>
      (c.isAlpha || c == '_') &&
        rest.all fun d => d.isAlphanum || d == '-' || d == '.' || d == '_'
  | _ => false

/-- Whether a value is a whole number that is not negative. -/
def isCount : Json → Bool
  | .integer n => decide (0 ≤ n)
  | .number x => x.toInt?.any fun n => decide (0 ≤ n)
  | _ => false

/-- Whether a value is a number. -/
def isNumber : Json → Bool
  | .integer _ => true
  | .number _ => true
  | _ => false

/-- Whether a value is a number and is neither zero nor below. -/
def isPositive : Json → Bool
  | .integer n => decide (0 < n)
  | .number x =>
      match x with
      | .finite negative m _ => !negative && m != 0
      | .infinite negative => !negative
      | .nan => true
  | _ => false

/-- Whether a value has a form that does not hold further schemas. -/
def fitsPlain : Form → Json → Bool
  | namesByName, .object ms => ms.all fun m => areNames m.2
  | flagsByName, .object ms => ms.all fun m => match m.2 with | .boolean _ => true | _ => false
  | text, .string _ => true
  | identifier, .string s => isIdentifier s
  | anchor, .string s => isAnchor s
  | flag, .boolean _ => true
  | anyList, .array _ => true
  | names, v => areNames v
  | kinds, v => areKinds v
  | number, v => isNumber v
  | positiveNumber, v => isPositive v
  | count, v => isCount v
  | _, _ => false

end Plain

mutual

/-- What is wrong with a value that should have a form. -/
def defects : Form → Json → List Defect
  | schema, .boolean _ => []
  | schema, .object ms =>
      let found := keywordDefects ms
      ofKeywords.flatMap fun k => (found.lookup (k.1 : CodeString)).getD []
  | schemas, .array (v :: vs) => defects schema v ++ listDefects vs
  | schemasByName, .object ms => valueDefects ms
  | schemasByPattern, .object ms =>
      valueDefects ms ++ ms.flatMap fun m => Defect.ofPattern m.1
  | schemaOrNamesByName, .object ms => valueOrNamesDefects ms
  | pattern, .string s => Defect.ofPattern s
  | form, v => Defect.ofFit (fitsPlain form v)

/-- What is wrong with the values of keywords, by their names. -/
def keywordDefects : List (CodeString × Json) → List (CodeString × List Defect)
  | [] => []
  | (name, v) :: rest =>
      match ofName? name with
      | some form => (name, defects form v) :: keywordDefects rest
      | none => keywordDefects rest

/-- What is wrong with the values of a list as schema documents. -/
def listDefects : List Json → List Defect
  | [] => []
  | v :: rest => defects schema v ++ listDefects rest

/-- What is wrong with the values of members as schema documents. -/
def valueDefects : List (CodeString × Json) → List Defect
  | [] => []
  | (_, v) :: rest => defects schema v ++ valueDefects rest

/-- What is wrong with the values of members, each a schema document or a list of different
strings. -/
def valueOrNamesDefects : List (CodeString × Json) → List Defect
  | [] => []
  | (_, v) :: rest =>
      (if areNames v then [] else Defect.alternative (defects schema v)) ++
        valueOrNamesDefects rest

end

end Form

/-- The first defect of a value as a schema document, if it is none. -/
def defect? (v : Json) : Option Defect := (Form.defects .schema v).head?

end Contract
end Reckoner
