import Reckoner.CommandLine.Run

/-!
# The program

The outer layer: it takes the files that the arguments name from the disk, lets the run be computed,
and writes what the run has written. A session is held line by line.
-/

namespace Reckoner
namespace Program

/-- Whether a path leads to a directory. -/
def isDirectory (path : String) : IO Bool := do
  try
    let _ ← IO.FS.realPath (path ++ "/.")
    return true
  catch _ => return false

/-- The path of a place. -/
def pathOf (place : List String) : String := "/" ++ "/".intercalate place

/-- The tree with what is on the disk at a place. -/
def look (t : FileTree) (place : List String) : IO FileTree := do
  if ← isDirectory (pathOf place) then
    return t.put place .directory
  try
    let content ← IO.FS.readBinFile (pathOf place)
    return t.put place (.file content.toList)
  catch _ => return t

/-- The tree with what is on the disk at a place and along the parts of a path from there. -/
def lookAlong (t : FileTree) (path : String) (place : List String) : List String → IO FileTree
  | [] => return t
  | part :: rest => do
      match FileTree.stepPlace path place part with
      | .error _ => return t
      | .ok next =>
          let t ← look t next
          lookAlong t path next rest

/-- The tree with what is on the disk along a path. -/
def lookAt (t : FileTree) (path : String) : IO FileTree :=
  lookAlong t path (if Path.isAbsolute path then [] else t.home) (Path.parts path)

/-- The tree with what is on the disk along several paths. -/
def lookAtAll (t : FileTree) (paths : List String) : IO FileTree := paths.foldlM lookAt t

/-- Puts entries of the log on the error output. -/
def note (entries : List LogEntry) : IO Unit := do
  for e in entries do
    IO.eprintln e.line

/-- What is said of an interruption, if it is worded. -/
def wording? : CommandLine.Interruption → Option String
  | .undecodableSettings => none
  | .longInteger digits => some (Failure.integerLength (some digits)).message
  | .file e => some e.message
  | .contract v => some v.message
  | .unwritablePrompt => none

/-- Puts on the disk what a run has written, shows what it says, and gives its status. -/
def conclude (before : FileTree) (trace : CommandLine.Trace) : IO UInt32 := do
  for file in FileTree.changedSince before trace.files do
    IO.FS.writeBinFile (pathOf file.1) (ByteArray.mk file.2.toArray)
  IO.print trace.output
  note trace.log
  match trace.ending with
  | .status code => return code.toUInt32
  | .interrupted cause =>
      for message in (wording? cause).toList do
        IO.eprintln message
      return 1

/-- Holds a session with a prompt until it ends. -/
partial def converse (s : Settings) (prompt : String) (input output : IO.FS.Stream) : IO Unit := do
  output.putStr prompt
  output.flush
  let line ← input.getLine
  if line.isEmpty then
    output.putStr "\n"
  else
    match Session.reply? s line.toList with
    | none => return
    | some a =>
        note (LogEntry.atLeast s.logLevel a.log)
        output.putStr (a.text ++ "\n")
        converse s prompt input output

/-- A run that does what its arguments ask for. -/
def perform (a : CommandLine.Arguments) : IO UInt32 := do
  let home := Path.parts (toString (← IO.currentDir))
  let t ← lookAtAll (FileTree.withHome home) a.config.toList
  match a.settings t with
  | .error f => conclude t (CommandLine.withoutSettings a t f)
  | .ok s =>
      match a.inputFile with
      | none =>
          match s.prompt.toString? with
          | none => conclude t (CommandLine.performWith a s t [])
          | some prompt =>
              let output ← IO.getStdout
              output.putStr (Session.banner s)
              converse s prompt (← IO.getStdin) output
              return 0
      | some path =>
          let t ← lookAtAll t (path :: (a.output.path? s).toList ++ a.report.toList)
          conclude t (CommandLine.performWith a s t [])

end Program
end Reckoner

open Reckoner in
/-- Runs the words of the command line. -/
def main (words : List String) : IO UInt32 := do
  match CommandLine.Request.ofTexts words with
  | .perform a => Program.perform a
  | .misused =>
      IO.eprint CommandLine.usage
      return 2
  | _ => Program.conclude {} (CommandLine.run words {} [])
