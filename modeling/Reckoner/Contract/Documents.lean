import Reckoner.Contract.Schema

/-!
# The two contracts

The schema of the settings document and the schema of the batch report. A report line has either a
result or an error: both members are always there, one a string and the other null.
-/

namespace Reckoner
namespace Contract

/-- The language in which both schemas are written. -/
def dialect : Keyword := .remark "$schema" "https://json-schema.org/draft/2020-12/schema"

/-- What a settings document may say. -/
def settingsSchema : Schema := [
  dialect,
  .remark "$id" "calculator_config.json",
  .remark "title" "Calculator configuration",
  .kinds [.object],
  .noOthers,
  .members [
    ("decimal_scale", [.kinds [.integer], .minimum 1, .maximum 1000]),
    ("max_exact_decimal_places", [.kinds [.integer], .minimum 0, .maximum 18]),
    ("output_path", [.kinds [.string], .minLength 1]),
    ("exit_command", [.kinds [.string], .minLength 1]),
    ("prompt", [.kinds [.string]]),
    ("log_level", [.kinds [.string],
      .among ["DEBUG", "INFO", "WARNING", "ERROR", "CRITICAL",
        "debug", "info", "warning", "error", "critical"]])]]

/-- What one line of a report says. -/
def lineSchema : Schema := [
  .kinds [.object],
  .noOthers,
  .required ["line_number", "expression", "result", "error"],
  .members [
    ("line_number", [.kinds [.integer], .minimum 1]),
    ("expression", [.kinds [.string]]),
    ("result", [.kinds [.string, .null]]),
    ("error", [.kinds [.string, .null]])],
  .exactlyOne [
    [.members [("result", [.kinds [.string]]), ("error", [.kinds [.null]])]],
    [.members [("result", [.kinds [.null]]), ("error", [.kinds [.string]])]]]]

/-- What a batch report says. -/
def reportSchema : Schema := [
  dialect,
  .remark "$id" "batch_report.json",
  .remark "title" "Batch evaluation report",
  .kinds [.object],
  .noOthers,
  .required ["input_path", "output_path", "total", "succeeded", "failed", "results"],
  .members [
    ("input_path", [.kinds [.string]]),
    ("output_path", [.kinds [.string]]),
    ("total", [.kinds [.integer], .minimum 0]),
    ("succeeded", [.kinds [.integer], .minimum 0]),
    ("failed", [.kinds [.integer], .minimum 0]),
    ("results", [.kinds [.array], .items lineSchema])]]

end Contract
end Reckoner
