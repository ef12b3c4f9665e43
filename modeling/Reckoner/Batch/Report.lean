import Reckoner.Contract.Documents

/-!
# Batch reports

What became of every line of a batch. A line has a result or an error; the record allows both and
neither, and it is the report's contract that refuses them.
-/

namespace Reckoner
namespace Batch

/-- What became of one line. -/
structure LineResult where
  /-- Lines are numbered from one. -/
  lineNumber : Int
  expression : String
  result : Option String := none
  error : Option String := none
  deriving DecidableEq, Repr

namespace LineResult

/-- Whether the line has no error. -/
def ok (r : LineResult) : Bool := r.error.isNone

/-- The answer to the line: its error under a mark, or else its result. -/
def rendered (r : LineResult) : Option String :=
  match r.error with
  | some message => some ("Err: " ++ message)
  | none => r.result

/-- The line in a report. -/
def toJson (r : LineResult) : Json :=
  .object [
    ("line_number", .integer r.lineNumber),
    ("expression", .string r.expression),
    ("result", Json.ofOption r.result),
    ("error", Json.ofOption r.error)]

end LineResult

/-- What became of a batch. -/
structure Report where
  inputPath : String
  outputPath : String
  results : List LineResult
  deriving DecidableEq, Repr

namespace Report

/-- How many lines there are. -/
def total (r : Report) : Nat := r.results.length

/-- How many lines have no error. -/
def succeeded (r : Report) : Nat := r.results.countP LineResult.ok

/-- How many lines have an error. -/
def failed (r : Report) : Nat := r.total - r.succeeded

theorem succeeded_add_failed (r : Report) : r.succeeded + r.failed = r.total := by
  have : r.succeeded ≤ r.total := List.countP_le_length
  unfold failed
  omega

/-- The report as a JSON value. -/
def toJson (r : Report) : Json :=
  .object [
    ("input_path", .string r.inputPath),
    ("output_path", .string r.outputPath),
    ("total", .integer r.total),
    ("succeeded", .integer r.succeeded),
    ("failed", .integer r.failed),
    ("results", .array (r.results.map LineResult.toJson))]

/-- The text of the report. -/
def text (r : Report) : String := r.toJson.print ++ "\n"

/-- Whether the report meets its contract. -/
def check (r : Report) : Except Contract.Violation Unit := Contract.reportSchema.check r.toJson

end Report
end Batch
end Reckoner
