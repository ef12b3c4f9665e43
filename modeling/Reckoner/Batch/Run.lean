import Reckoner.Batch.Destination
import Reckoner.Batch.Report

/-!
# Batches

Every line of a file is evaluated by itself and answered on a line of its own. The whole input is
read before the output is opened, so the two may be one file. Without a path to write to, the lines
are evaluated all the same. A report is checked before its file
is opened.
-/

namespace Reckoner
namespace Batch

/-- What became of one line, and what was logged on the way. -/
structure Answered where
  result : LineResult
  log : List LogEntry

/-- The entry of a line that failed. -/
def failureEntry (lineNumber : Int) (expression message : String) : LogEntry :=
  { channel := .batch
    level := .info
    message :=
      "Line " ++ lineNumber.repr ++ ": " ++ Text.quoted expression ++ " failed: " ++ message }

/-- Evaluates one line, without the blanks around it. -/
def answerLine (s : Settings) (lineNumber : Int) (line : List Char) : Answered :=
  let cs := Text.strip line
  let expression := String.ofList cs
  let outcome := Expression.calculate s.precision cs
  let log := outcome.events.map LogEntry.ofEvent
  match outcome.result with
  | .ok result => ⟨⟨lineNumber, expression, some result, none⟩, log⟩
  | .error f =>
      ⟨⟨lineNumber, expression, none, some f.message⟩,
        log ++ [failureEntry lineNumber expression f.message]⟩

/-- Evaluates lines that are numbered from `first` on. -/
def answerLines (s : Settings) (first : Int) : List (List Char) → List Answered
  | [] => []
  | line :: rest => answerLine s first line :: answerLines s (first + 1) rest

/-- What became of each of several lines. -/
def lineResults (s : Settings) (lines : List (List Char)) : List LineResult :=
  (answerLines s 1 lines).map Answered.result

/-- The answers to several lines, one on each line. -/
def answerText (results : List LineResult) : List Char :=
  results.flatMap fun r => (r.rendered.getD "").toList ++ ['\n']

/-- What is left of a step: its result, the files and what was logged. -/
structure Step (α : Type) where
  result : α
  files : FileTree
  log : List LogEntry := []

/-- The entry of a batch that is done. -/
def doneEntry (r : Report) : LogEntry :=
  { channel := .batch
    level := .info
    message :=
      "Processed " ++ r.total.repr ++ " lines from " ++ r.inputPath ++ ": " ++
        r.succeeded.repr ++ " succeeded, " ++ r.failed.repr ++ " failed" }

/-- Writes the answers to several lines. -/
def writeAnswers (t : FileTree) (results : List LineResult) (path : String) :
    Except FileError FileTree :=
  t.write path (Utf8.encode (answerText results))

/-- Evaluates every line of a file and writes the answers. -/
def processFile (t : FileTree) (inputPath : String) (d : Destination) (s : Settings) :
    Step (Except FileError Report) :=
  match t.read inputPath with
  | .error e => ⟨.error e, t, []⟩
  | .ok content =>
      let answered := answerLines s 1 (Text.fileLines content)
      let log := answered.flatMap Answered.log
      let results := answered.map Answered.result
      match d.path? s with
      | none => ⟨.error .noPath, t, log⟩
      | some outputPath =>
          match writeAnswers t results outputPath with
          | .error e => ⟨.error e, t, log⟩
          | .ok files =>
              let report : Report := ⟨inputPath, outputPath, results⟩
              ⟨.ok report, files, log ++ [doneEntry report]⟩

/-- Why a report is not written. -/
inductive ReportFailure where
  | contract (v : Contract.Violation)
  | file (e : FileError)
  deriving DecidableEq, Repr

/-- The files after a report that meets its contract is written. -/
def writeReport (t : FileTree) (r : Report) (path : String) : Except ReportFailure FileTree :=
  match r.check with
  | .error v => .error (.contract v)
  | .ok () =>
      match t.write path (Utf8.encode r.text.toList) with
      | .error e => .error (.file e)
      | .ok files => .ok files

end Batch
end Reckoner
