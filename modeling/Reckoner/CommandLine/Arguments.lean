import Reckoner.Batch.Destination

/-!
# Arguments

How the words of a command line are understood. A word that starts with a hyphen is an option,
unless it is a single hyphen, looks like a negative number or holds a space; after the word `--`
none is. The name of a long option may be cut short where only one option starts with it, and the
value of an option of one letter may be glued to it, as may a further option of one letter to one
that takes no value. A value `--` after an equals sign, or glued, is no value: it takes back what
was given before, and leaves a batch without a place to write its answers to. Words are taken from
left to right, so a version or help request before a mistake is still answered.
-/

namespace Reckoner
namespace CommandLine

/-- The options. -/
inductive Switch where
  | help
  | output
  | config
  | report
  | logLevel
  | version
  deriving DecidableEq, Repr

namespace Switch

/-- All options. -/
def all : List Switch := [help, output, config, report, logLevel, version]

/-- The names of an option. -/
def names : Switch → List String
  | help => ["-h", "--help"]
  | output => ["-o", "--output"]
  | config => ["--config"]
  | report => ["--report"]
  | logLevel => ["--log-level"]
  | version => ["--version"]

/-- Whether an option is followed by a value. -/
def takesValue : Switch → Bool
  | help => false
  | version => false
  | _ => true

/-- The option with a name. -/
def named? (name : List Char) : Option Switch :=
  all.find? fun s => s.names.contains (String.ofList name)

/-- The options with a name that starts as given. -/
def startingWith (start : List Char) : List Switch :=
  all.filter fun s => s.names.any fun name => start.isPrefixOf name.toList

end Switch

/-- A word of the command line. -/
inductive Word where
  /-- A file name or the value of an option. -/
  | plain (text : String)
  /-- The word `--`, after which no word is an option. -/
  | divider
  /-- An option, with the value after an equals sign if there is one. -/
  | switch (s : Switch) (value : Option (List Char))
  /-- An option of one letter and what is glued to it, or follows its equals sign. -/
  | glued (s : Switch) (rest : List Char)
  /-- Something that looks like an option and is none. -/
  | unknown
  /-- The start of several options. -/
  | ambiguous
  deriving DecidableEq, Repr

namespace Word

/-- Whether a text is a hyphen with a number after it: digits, or a point with digits after it and
perhaps before it. One line end may follow. -/
def looksNegative (cs : List Char) : Bool :=
  let cs := if cs.getLast? = some '\n' then cs.dropLast else cs
  match cs with
  | '-' :: rest =>
      match rest.dropWhile Text.isAnyDigit with
      | [] => !rest.isEmpty
      | '.' :: ds => !ds.isEmpty && ds.all Text.isAnyDigit
      | _ => false
  | _ => false

/-- A word with the full name of an option, and the value after an equals sign if there is one. -/
def ofNamed (name : List Char) (s : Switch) : Option (List Char) → Word
  | some (c :: cs) =>
      if name.length = 2 then glued s (c :: cs) else switch s (some (c :: cs))
  | value => switch s value

/-- A word by what it spells. -/
def ofOption (cs : List Char) : Word :=
  let name := cs.takeWhile (· != '=')
  let value := if cs.contains '=' then some ((cs.dropWhile (· != '=')).drop 1) else none
  match Switch.named? name with
  | some s => ofNamed name s value
  | none =>
      let candidates :=
        match cs with
        | '-' :: '-' :: _ => (Switch.startingWith name).map fun s => switch s value
        | _ => ((Switch.named? (cs.take 2)).map fun s => glued s (cs.drop 2)).toList
      match candidates with
      | [w] => w
      | _ :: _ => ambiguous
      | [] => if looksNegative cs || cs.contains ' ' then plain (String.ofList cs) else unknown

/-- A word before any divider. -/
def ofText (text : String) : Word :=
  match text.toList with
  | '-' :: c :: cs => ofOption ('-' :: c :: cs)
  | _ => plain text

/-- The words of a command line. -/
def ofTexts : List String → List Word
  | [] => []
  | text :: rest =>
      if text = "--" then divider :: rest.map plain else ofText text :: ofTexts rest

end Word

/-- What a command line asks to be done. -/
structure Arguments where
  inputFile : Option String := none
  output : Batch.Destination := .ofSettings
  config : Option String := none
  report : Option String := none
  logLevel : Option LogLevel := none
  /-- Whether there is a word that nothing asks for. -/
  surplus : Bool := false
  deriving DecidableEq, Repr

/-- What a command line asks for. -/
inductive Request where
  | perform (arguments : Arguments)
  | showHelp
  | showVersion
  | misused
  deriving DecidableEq, Repr

namespace Request

/-- The arguments with a divider where the value of an option belongs, if the option takes a
value. -/
def withDivider (a : Arguments) : Switch → Option Arguments
  | .output => some { a with output := .nowhere }
  | .config => some { a with config := none }
  | .report => some { a with report := none }
  | .logLevel => some { a with logLevel := none }
  | .help => none
  | .version => none

/-- The arguments with the value of an option, if the option takes the value. -/
def withValue (a : Arguments) (s : Switch) (value : String) : Option Arguments :=
  if value = "--" then withDivider a s
  else
    match s with
    | .output => some { a with output := .path value }
    | .config => some { a with config := some value }
    | .report => some { a with report := some value }
    | .logLevel =>
        (LogLevel.ofName? (Text.inUpperCase value)).map fun level =>
          { a with logLevel := some level }
    | .help => none
    | .version => none

/-- What an option without a value asks for at once. -/
def immediate? : Switch → Option Request
  | .help => some showHelp
  | .version => some showVersion
  | _ => none

/-- Whether the next word can be the value of an option. -/
def startsPlain : List Word → Bool
  | .plain _ :: _ => true
  | _ => false

/-- Whether letters glued to an option without a value can be read, with `rest` as the next words:
they are further options of one letter, up to one that takes a value and has it. -/
def areReadable (rest : List Word) : List Char → Bool
  | [] => true
  | c :: cs =>
      match Switch.named? ['-', c] with
      | none => false
      | some s => if s.takesValue then !cs.isEmpty || startsPlain rest else areReadable rest cs

/-- What the remaining words ask for. The input file may have a divider on either side; one that
comes later is one word too many. -/
def ofWords (a : Arguments) : List Word → Request
  | [] => if a.surplus then misused else perform a
  | .plain text :: rest =>
      match a.inputFile, rest with
      | none, .divider :: rest => ofWords { a with inputFile := some text } rest
      | none, rest => ofWords { a with inputFile := some text } rest
      | some _, rest => ofWords { a with surplus := true } rest
  | .divider :: rest =>
      match a.inputFile, rest with
      | none, .plain text :: rest => ofWords { a with inputFile := some text } rest
      | none, rest => ofWords a rest
      | some _, rest => ofWords { a with surplus := true } rest
  | .unknown :: rest => ofWords { a with surplus := true } rest
  | .ambiguous :: _ => misused
  | .glued s cs :: rest =>
      match immediate? s with
      | some request => if areReadable rest cs then request else misused
      | none =>
          match withValue a s (String.ofList cs) with
          | some a => ofWords a rest
          | none => misused
  | .switch s (some cs) :: rest =>
      match withValue a s (String.ofList cs) with
      | some a => ofWords a rest
      | none => misused
  | .switch s none :: rest =>
      match immediate? s, rest with
      | some request, _ => request
      | none, .plain text :: rest =>
          match withValue a s text with
          | some a => ofWords a rest
          | none => misused
      | none, _ => misused

/-- What a command line asks for. -/
def ofTexts (texts : List String) : Request :=
  let words := Word.ofTexts texts
  if words.contains .ambiguous then misused else ofWords {} words

end Request
end CommandLine
end Reckoner
