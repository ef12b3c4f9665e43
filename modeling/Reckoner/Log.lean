import Reckoner.Expression.Evaluation

/-!
# Log

What a run notes besides its answers: entries with a level, each under the name of the part that
notes it. A log keeps the entries from its level on.
-/

namespace Reckoner

/-- How serious an entry is. -/
inductive LogLevel where
  | debug
  | info
  | warning
  | error
  | critical
  deriving DecidableEq, Repr

namespace LogLevel

/-- All levels, the least serious first. -/
def all : List LogLevel := [debug, info, warning, error, critical]

/-- The name of a level. -/
def name : LogLevel → String
  | debug => "DEBUG"
  | info => "INFO"
  | warning => "WARNING"
  | error => "ERROR"
  | critical => "CRITICAL"

/-- The level with a name. -/
def ofName? (name : String) : Option LogLevel := all.find? fun l => l.name == name

/-- The rank of a level. -/
def severity : LogLevel → Nat
  | debug => 0
  | info => 1
  | warning => 2
  | error => 3
  | critical => 4

theorem ofName?_name (l : LogLevel) : ofName? l.name = some l := by
  cases l <;> decide

end LogLevel

/-- The parts of a run that note something. -/
inductive Channel where
  | evaluator
  | batch
  | session
  | commandLine
  deriving DecidableEq, Repr

namespace Channel

/-- The name under which a part notes. -/
def name : Channel → String
  | evaluator => "batchcalc.evaluator.expression_evaluator"
  | batch => "batchcalc.app.batch_processor"
  | session => "batchcalc.app.repl"
  | commandLine => "batchcalc.app.cli"

end Channel

/-- One note. -/
structure LogEntry where
  channel : Channel
  level : LogLevel
  message : String
  /-- What the message is about, in the words of the part that found it. -/
  detail : Option String := none
  deriving DecidableEq, Repr

namespace LogEntry

/-- The line of an entry up to its detail. -/
def headline (e : LogEntry) : String :=
  e.channel.name ++ " - " ++ e.level.name ++ " - " ++ e.message

/-- The line of an entry. -/
def line (e : LogEntry) : String :=
  match e.detail with
  | none => e.headline
  | some detail => e.headline ++ ": " ++ detail

/-- The entry of an event of an evaluation. -/
def ofEvent (e : Expression.Event) : LogEntry :=
  { channel := .evaluator, level := if e.isWarning then .warning else .debug, message := e.message }

/-- The entries that are at least as serious as a level. -/
def atLeast (level : LogLevel) (entries : List LogEntry) : List LogEntry :=
  entries.filter fun e => level.severity ≤ e.level.severity

end LogEntry
end Reckoner
