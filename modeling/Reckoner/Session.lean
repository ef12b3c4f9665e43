import Reckoner.Settings

/-!
# Sessions

A dialogue of prompts, lines and answers. It opens with a banner and ends at the exit command, or
after the last line, where a line feed closes the last prompt. The prompt may be no text, and then what
the session shows is none.
-/

namespace Reckoner
namespace Session

/-- The opening line. -/
def banner (s : Settings) : String :=
  "Enter a mathematical expression (or type '" ++ s.exitCommand ++ "' to quit):\n"

/-- The answer to a line, and what was logged on the way. -/
structure Answer where
  text : String
  log : List LogEntry

/-- The entry of a line that failed. -/
def failureEntry (line : List Char) (message : String) : LogEntry :=
  { channel := .session
    level := .debug
    message := String.ofList (Text.quote line) ++ " failed: " ++ message }

/-- Answers one line. -/
def answer (s : Settings) (line : List Char) : Answer :=
  let outcome := Expression.calculate s.precision line
  let log := outcome.events.map LogEntry.ofEvent
  match outcome.result with
  | .ok result => ⟨"Result: " ++ result, log⟩
  | .error f => ⟨"Err: " ++ f.message, log ++ [failureEntry line f.message]⟩

/-- What a session has shown, how many lines it has answered and what was logged. -/
structure Transcript where
  output : CodeString
  answered : Nat
  log : List LogEntry

/-- The answer to a line with its end, unless the line ends the session. -/
def reply? (s : Settings) (line : List Char) : Option Answer :=
  let line := Text.dropLineEnds line
  if s.isExitCommand line then none else some (answer s line)

/-- The dialogue over the remaining lines. -/
def converse (s : Settings) : List (List Char) → Transcript
  | [] => ⟨s.prompt ++ "\n", 0, []⟩
  | line :: rest =>
      match reply? s line with
      | none => ⟨s.prompt, 0, []⟩
      | some a =>
          let t := converse s rest
          ⟨s.prompt ++ a.text ++ "\n" ++ t.output, t.answered + 1, a.log ++ t.log⟩

/-- The session over an input text. -/
def run (s : Settings) (input : List Char) : Transcript :=
  let t := converse s (Text.linesWithEnds input)
  { t with output := banner s ++ t.output }

end Session
end Reckoner
