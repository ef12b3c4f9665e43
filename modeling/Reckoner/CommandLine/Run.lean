import Reckoner.Batch.Run
import Reckoner.CommandLine.Arguments
import Reckoner.Session

/-!
# Runs of the command line

A run takes the words of a command line, the text of its input and the files, and ends with a
status: 0 when all went well, 1 when the settings or a file stood in the way, 2 when the words make
no sense. A few failures are nobody's to answer for, as that of a path no file can have; they
interrupt the run.

With an input file the run is a batch, without one a session. Only entries from the level of the
settings on are logged, and nothing is logged while the settings are read but their failure.
-/

namespace Reckoner
namespace CommandLine

/-- A failure that a run does not answer for. -/
inductive Interruption where
  | undecodableSettings
  /-- Settings with an integer of this many digits, more than are read. -/
  | longInteger (digits : Nat)
  /-- A file whose path no file can have. -/
  | file (e : FileError)
  | contract (v : Contract.Violation)
  /-- A prompt that is no text. -/
  | unwritablePrompt
  deriving DecidableEq, Repr

/-- How a run ends. -/
inductive Ending where
  | status (code : Nat)
  | interrupted (cause : Interruption)
  deriving DecidableEq, Repr

/-- What a run leaves behind. -/
structure Trace where
  ending : Ending
  output : String := ""
  log : List LogEntry := []
  files : FileTree

/-- The name and the number of this release. -/
def release : String := "batchcalc 2.0.0\n"

/-- The names of the log levels, in the form of a choice. -/
def levelChoice : String :=
  "\x7b" ++ ",".intercalate (LogLevel.all.map LogLevel.name) ++ "\x7d"

/-- How the words are to be put. -/
def usage : String :=
  "usage: batchcalc [-h] [-o OUTPUT] [--config CONFIG] [--report REPORT]\n" ++
  "                 [--log-level " ++ levelChoice ++ "] [--version]\n" ++
  "                 [input_file]\n"

/-- What the words mean. -/
def help : String :=
  usage ++
  "\nExact fraction / decimal calculator. Evaluates INPUT_FILE line by line, or\n" ++
  "starts an interactive prompt.\n" ++
  "\npositional arguments:\n" ++
  "  input_file            File with one expression per line (batch mode)\n" ++
  "\noptions:\n" ++
  "  -h, --help            show this help message and exit\n" ++
  "  -o OUTPUT, --output OUTPUT\n" ++
  "                        Batch output file (default: output.txt)\n" ++
  "  --config CONFIG       JSON configuration file\n" ++
  "  --report REPORT       Write a JSON batch report to this path\n" ++
  "  --log-level " ++ levelChoice ++ "\n" ++
  "                        Logging level\n" ++
  "  --version             show program's version number and exit\n"

namespace Arguments

/-- A path that is given and not empty. -/
def givenPath (path : Option String) : Option String := path.filter fun p => !p.isEmpty

/-- The settings of a run: those of the settings file, if one is given, under the log level of the
words, if one is given. -/
def settings (a : Arguments) (t : FileTree) : Except Settings.LoadFailure Settings :=
  let base :=
    match givenPath a.config with
    | some path => Settings.load t path
    | none => .ok .standard
  base.map fun s => { s with logLevel := a.logLevel.getD s.logLevel }

end Arguments

/-- An entry of the command line itself, about a failure. -/
def failureEntry (message : String) (detail : Option String) : LogEntry :=
  { channel := .commandLine, level := .error, message := message, detail := detail }

/-- The end of a run without settings. -/
def withoutSettings (a : Arguments) (t : FileTree) (f : Settings.LoadFailure) : Trace :=
  match f with
  | .undecodable => { ending := .interrupted .undecodableSettings, files := t }
  | .longInteger digits => { ending := .interrupted (.longInteger digits), files := t }
  | _ =>
      { ending := .status 1
        log := [failureEntry ("Invalid configuration " ++ a.config.getD "") f.message]
        files := t }

/-- The end of a batch that a file stands in the way of. -/
def stoppedByFile (e : FileError) (log : List LogEntry) (files : FileTree) : Trace :=
  if e.isAboutFiles then
    { ending := .status 1
      log := log ++ [failureEntry ("Batch processing failed: " ++ e.message) none]
      files := files }
  else { ending := .interrupted (.file e), log := log, files := files }

/-- A batch: every line of the input file is answered, and a report is written if one is asked
for. -/
def batch (a : Arguments) (s : Settings) (t : FileTree) (inputFile : String) : Trace :=
  let step := Batch.processFile t inputFile a.output s
  match step.result with
  | .error e => stoppedByFile e step.log step.files
  | .ok report =>
      match Arguments.givenPath a.report with
      | none => { ending := .status 0, log := step.log, files := step.files }
      | some path =>
          match Batch.writeReport step.files report path with
          | .ok files => { ending := .status 0, log := step.log, files := files }
          | .error (.file e) => stoppedByFile e step.log step.files
          | .error (.contract v) =>
              { ending := .interrupted (.contract v), log := step.log, files := step.files }

/-- A session over the input text. A prompt that is no text stops it where it is shown for the first
time, after the banner. -/
def session (s : Settings) (t : FileTree) (input : List Char) : Trace :=
  let transcript := Session.run s input
  match transcript.output.toString? with
  | some output => { ending := .status 0, output := output, log := transcript.log, files := t }
  | none =>
      { ending := .interrupted .unwritablePrompt, output := Session.banner s, files := t }

/-- A run with settings. -/
def performWith (a : Arguments) (s : Settings) (t : FileTree) (input : List Char) : Trace :=
  let trace :=
    match a.inputFile with
    | some path => batch a s t path
    | none => session s t input
  { trace with log := LogEntry.atLeast s.logLevel trace.log }

/-- A run that does what its arguments ask for. -/
def perform (a : Arguments) (t : FileTree) (input : List Char) : Trace :=
  match a.settings t with
  | .error f => withoutSettings a t f
  | .ok s => performWith a s t input

/-- A run. -/
def run (words : List String) (t : FileTree) (input : List Char) : Trace :=
  match Request.ofTexts words with
  | .perform a => perform a t input
  | .showHelp => { ending := .status 0, output := help, files := t }
  | .showVersion => { ending := .status 0, output := release, files := t }
  | .misused => { ending := .status 2, files := t }

end CommandLine
end Reckoner
