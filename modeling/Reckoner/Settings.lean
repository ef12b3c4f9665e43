import Reckoner.Contract.Documents
import Reckoner.FileTree
import Reckoner.Json.Reader
import Reckoner.Log
import Reckoner.Text.Blank
import Reckoner.Text.Digits
import Reckoner.Text.LetterCase

/-!
# Settings

What can be set: how precisely expressions are evaluated, where a batch writes its answers, how a
session talks, and how much is logged. The bounds are part of the type, and so is that there is an
output path and an exit command without blanks around it.

A settings document is checked twice: against its schema, and by `Settings.ofJson`, which also
converts. A whole number may be given as a boolean, a number without a fraction or a text; the exit
command loses the blanks around it; the log level may be in any letter case. A string in which half of a
pair stands alone is no text: it is refused as an output path and as an exit command, but the prompt is
any string.
-/

namespace Reckoner

/-- Everything that can be set. -/
structure Settings where
  /-- Places to which values are rounded. -/
  scale : Nat := 10
  /-- Places up to which a numeral is exact. -/
  exactPlaces : Nat := 10
  /-- Where a batch writes its answers. -/
  outputPath : String := "output.txt"
  /-- The line that ends a session, in any letter case. -/
  exitCommand : String := "exit"
  /-- What a session shows before it reads a line. -/
  prompt : CodeString := "> "
  /-- The least serious entries that are logged. -/
  logLevel : LogLevel := .warning
  scale_bounds : 1 ≤ scale ∧ scale ≤ 1000 := by decide
  exactPlaces_le : exactPlaces ≤ 18 := by decide
  outputPath_full : outputPath ≠ "" := by decide
  exitCommand_full : exitCommand ≠ "" := by decide
  exitCommand_stripped : Text.stripped exitCommand = exitCommand := by decide
  deriving DecidableEq, Repr

/-- Why a setting is not accepted. -/
inductive SettingFault where
  /-- Not a record of settings at all. -/
  | notRecord
  | notInteger
  | notIntegerText
  | fractionalNumber
  | oversizedNumber
  | notFinite
  | below (bound : Int)
  | above (bound : Int)
  | notString
  /-- A string that is no text. -/
  | notText
  | emptyString
  | blankExitCommand
  | unknownLogLevel (given : CodeString)
  deriving DecidableEq, Repr

namespace SettingFault

/-- The class of a fault. -/
def code : SettingFault → String
  | notRecord => "model_type"
  | notInteger => "int_type"
  | notIntegerText => "int_parsing"
  | fractionalNumber => "int_from_float"
  | oversizedNumber => "int_parsing_size"
  | notFinite => "finite_number"
  | below _ => "greater_than_equal"
  | above _ => "less_than_equal"
  | notString => "string_type"
  | notText => "string_unicode"
  | emptyString => "string_too_short"
  | blankExitCommand => "value_error"
  | unknownLogLevel _ => "value_error"

/-- The names of all log levels, parted by commas. -/
def levelNames : String := ", ".intercalate (LogLevel.all.map LogLevel.name)

/-- The wording of a fault. -/
def message : SettingFault → String
  | notRecord => "Input should be a valid dictionary or instance of CalculatorConfig"
  | notInteger => "Input should be a valid integer"
  | notIntegerText => "Input should be a valid integer, unable to parse string as an integer"
  | fractionalNumber => "Input should be a valid integer, got a number with a fractional part"
  | oversizedNumber => "Unable to parse input string as an integer, exceeded maximum size"
  | notFinite => "Input should be a finite number"
  | below bound => "Input should be greater than or equal to " ++ bound.repr
  | above bound => "Input should be less than or equal to " ++ bound.repr
  | notString => "Input should be a valid string"
  | notText => "Input should be a valid string, unable to parse raw data as a unicode string"
  | emptyString => "String should have at least 1 character"
  | blankExitCommand => "Value error, exit_command must not be blank"
  | unknownLogLevel given =>
      "Value error, log_level must be one of " ++ levelNames ++ ", got " ++ given.quoted

end SettingFault

/-- A fault and the setting that has it. -/
structure SettingError where
  setting : String
  fault : SettingFault
  deriving DecidableEq, Repr

namespace Settings

/-- The settings where nothing is said. -/
def standard : Settings := {}

/-- How precisely expressions are evaluated. -/
def precision (s : Settings) : Precision := ⟨s.scale, s.exactPlaces⟩

section IntegerTexts

/-- A numeral without the zeros at its start and the underscores among them. Where no digit follows
them, the last one stays. -/
def dropLeadingZeros (cs : List Char) : List Char :=
  if cs.head? = some '0' then
    let zeros := cs.takeWhile fun c => c == '0' || c == '_'
    let rest := cs.drop zeros.length
    if rest.head?.any Char.isDigit then rest else zeros.drop (zeros.length - 1) ++ rest
  else cs

/-- A numeral without the point at its end that has nothing but zeros after it, at least one. -/
def dropZeroPlaces (cs : List Char) : List Char :=
  match cs.dropWhile (· != '.') with
  | '.' :: zero :: zeros =>
      if (zero :: zeros).all (· == '0') then cs.takeWhile (· != '.') else cs
  | _ => cs

/-- The number of an unsigned numeral: digits in groups that single underscores part. -/
def magnitude? (cs : List Char) : Option Nat :=
  let cs := dropZeroPlaces (dropLeadingZeros cs)
  let ds := cs.filter (· != '_')
  if Text.isGrouped cs && ds.all Char.isDigit then some (Nat.ofDigitChars 10 ds 0) else none

/-- The whole number that a text writes: a sign or none, and a numeral. -/
def integerText? (cs : List Char) : Option Int :=
  match Text.trimNumber cs with
  | '-' :: rest => (magnitude? rest).map fun n => -(n : Int)
  | '+' :: rest => (magnitude? rest).map fun n => (n : Int)
  | rest => (magnitude? rest).map fun n => (n : Int)

end IntegerTexts

/-- Numbers with a point or an exponent stand for whole numbers below this magnitude only. -/
def magnitudeLimit : Nat := 9223372036854775808

/-- The whole number that a value stands for. -/
def toInteger : Json → Except SettingFault Int
  | .boolean b => .ok (if b then 1 else 0)
  | .integer n => .ok n
  | .number x =>
      match x with
      | .finite _ _ _ =>
          match x.toInt? with
          | some n => if n.natAbs < magnitudeLimit then .ok n else .error .oversizedNumber
          | none => .error .fractionalNumber
      | _ => .error .notFinite
  | .string s =>
      match s.toChars? with
      | none => .error .notText
      | some cs =>
          match integerText? cs with
          | some n => .ok n
          | none => .error .notIntegerText
  | _ => .error .notInteger

/-- A whole number within bounds. -/
def toBounded (low high : Nat) (v : Json) :
    Except SettingFault { n : Nat // low ≤ n ∧ n ≤ high } :=
  match toInteger v with
  | .error f => .error f
  | .ok n =>
      if _ : n < low then .error (.below low)
      else if _ : (high : Int) < n then .error (.above high)
      else .ok ⟨n.toNat, by omega, by omega⟩

/-- A string. -/
def toCodeString : Json → Except SettingFault CodeString
  | .string s => .ok s
  | _ => .error .notString

/-- A text with at least one character. -/
def toFullText (v : Json) : Except SettingFault { s : String // s ≠ "" } :=
  match toCodeString v with
  | .error f => .error f
  | .ok s =>
      match s.toString? with
      | none => .error .notText
      | some s => if h : s = "" then .error .emptyString else .ok ⟨s, h⟩

/-- An exit command: a text that is not blank, without the blanks around it. -/
def toExitCommand (v : Json) :
    Except SettingFault { s : String // s ≠ "" ∧ Text.stripped s = s } :=
  match toFullText v with
  | .error f => .error f
  | .ok s =>
      if h : Text.stripped s = "" then .error .blankExitCommand
      else .ok ⟨Text.stripped s, h, Text.stripped_stripped s⟩

/-- A log level by its name in any letter case. -/
def toLogLevel (v : Json) : Except SettingFault LogLevel :=
  match toCodeString v with
  | .error f => .error f
  | .ok s =>
      match s.toString?.bind fun name => LogLevel.ofName? (Text.inUpperCase name) with
      | some level => .ok level
      | none => .error (.unknownLogLevel s)

/-- A setting that a record may leave out. -/
def read {α : Type} (members : List (CodeString × Json)) (name : String) (standard : α)
    (convert : Json → Except SettingFault α) : Except SettingFault α :=
  match members.lookup (name : CodeString) with
  | some v => convert v
  | none => .ok standard

/-- The error of a setting, if it has one. -/
def errorOf {α : Type} (name : String) : Except SettingFault α → List SettingError
  | .ok _ => []
  | .error f => [⟨name, f⟩]

/-- The settings in a list of members; members that are no settings are passed over. -/
def ofMembers (members : List (CodeString × Json)) : Except (List SettingError) Settings :=
  let scale :=
    read members "decimal_scale" ⟨standard.scale, standard.scale_bounds⟩ (toBounded 1 1000)
  let exactPlaces :=
    read members "max_exact_decimal_places"
      ⟨standard.exactPlaces, Nat.zero_le _, standard.exactPlaces_le⟩ (toBounded 0 18)
  let outputPath :=
    read members "output_path" ⟨standard.outputPath, standard.outputPath_full⟩ toFullText
  let exitCommand :=
    read members "exit_command"
      ⟨standard.exitCommand, standard.exitCommand_full, standard.exitCommand_stripped⟩
      toExitCommand
  let prompt := read members "prompt" standard.prompt toCodeString
  let logLevel := read members "log_level" standard.logLevel toLogLevel
  match scale, exactPlaces, outputPath, exitCommand, prompt, logLevel with
  | .ok scale, .ok exactPlaces, .ok outputPath, .ok exitCommand, .ok prompt, .ok logLevel =>
      .ok {
        scale := scale
        exactPlaces := exactPlaces
        outputPath := outputPath
        exitCommand := exitCommand
        prompt := prompt
        logLevel := logLevel
        scale_bounds := scale.2
        exactPlaces_le := exactPlaces.2.2
        outputPath_full := outputPath.2
        exitCommand_full := exitCommand.2.1
        exitCommand_stripped := exitCommand.2.2 }
  | _, _, _, _, _, _ =>
      .error (errorOf "decimal_scale" scale ++ errorOf "max_exact_decimal_places" exactPlaces ++
        errorOf "output_path" outputPath ++ errorOf "exit_command" exitCommand ++
        errorOf "prompt" prompt ++ errorOf "log_level" logLevel)

/-- The settings that a JSON value states. -/
def ofJson : Json → Except (List SettingError) Settings
  | .object members => ofMembers members
  | _ => .error [⟨"", .notRecord⟩]

/-- The settings as a JSON value. -/
def toJson (s : Settings) : Json :=
  .object [
    ("decimal_scale", .integer s.scale),
    ("max_exact_decimal_places", .integer s.exactPlaces),
    ("output_path", .string s.outputPath),
    ("exit_command", .string s.exitCommand),
    ("prompt", .string s.prompt),
    ("log_level", .string s.logLevel.name)]

/-- Whether a line is the exit command, whatever its letter case and the blanks around it. -/
def isExitCommand (s : Settings) (line : List Char) : Bool :=
  Text.lower (Text.strip line) == Text.lower s.exitCommand.toList

/-- Why settings cannot be had from a document. -/
inductive LoadFailure where
  | missing (path : String)
  | file (e : FileError)
  | undecodable
  | notJson
  /-- An integer of the document has this many digits, more than are read. -/
  | longInteger (digits : Nat)
  | contract (v : Contract.Violation)
  | settings (errors : List SettingError)
  deriving DecidableEq, Repr

/-- The wording of a failure. What the decoder and the reader say of a text is not worded here, nor
how several faults are put together. -/
def LoadFailure.message : LoadFailure → Option String
  | missing path => some ("Config file not found: " ++ path)
  | file e => some e.message
  | undecodable => none
  | notJson => none
  | longInteger digits => some (Failure.integerLength (some digits)).message
  | contract v => some v.message
  | settings _ => none

/-- The settings that a document states, which has to meet its schema. -/
def ofDocument (v : Json) : Except LoadFailure Settings :=
  match Contract.settingsSchema.check v with
  | .error e => .error (.contract e)
  | .ok () =>
      match ofJson v with
      | .error es => .error (.settings es)
      | .ok s => .ok s

/-- The settings that the bytes of a document state. -/
def ofBytes (bs : Bytes) : Except LoadFailure Settings :=
  match Utf8.decode? bs with
  | none => .error .undecodable
  | some cs =>
      match Json.load cs with
      | .error .malformed => .error .notJson
      | .error (.longInteger digits) => .error (.longInteger digits)
      | .ok v => ofDocument v

/-- The settings in a file. -/
def load (t : FileTree) (path : String) : Except LoadFailure Settings :=
  let path := Path.simplified path
  match t.reaches path with
  | .error e => .error (.file e)
  | .ok false => .error (.missing path)
  | .ok true =>
      match t.read path with
      | .error e => .error (.file e)
      | .ok bs => ofBytes bs

end Settings
end Reckoner
