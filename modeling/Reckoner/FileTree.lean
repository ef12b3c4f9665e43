import Reckoner.Text.Lines
import Reckoner.Text.Pieces
import Reckoner.Text.Quoted

/-!
# File trees

Files and directories by their place, and paths to them. A path is a text; its parts lie between
slashes, `.` stays where it is and `..` goes up. A path is followed from the tree's home, or from
the root if it starts with a slash, and every directory on the way has to be there.

**Results.**
* `find?_put_self`, `find?_put_of_ne`: an entry is found where it was put, and nothing else changes.
-/

namespace Reckoner

/-- What a name in a directory stands for. -/
inductive Entry where
  | file (content : Bytes)
  | directory
  deriving DecidableEq, Repr

/-- Why a file cannot be opened. -/
inductive FileError where
  | notFound (path : String)
  | isDirectory (path : String)
  | notDirectory (path : String)
  | nameTooLong (path : String)
  | nulInPath
  /-- There is no path at all. -/
  | noPath
  deriving DecidableEq, Repr

namespace FileError

/-- The wording of an error, with the path as it was given. -/
def message : FileError → String
  | notFound path => "[Errno 2] No such file or directory: " ++ Text.quoted path
  | isDirectory path => "[Errno 21] Is a directory: " ++ Text.quoted path
  | notDirectory path => "[Errno 20] Not a directory: " ++ Text.quoted path
  | nameTooLong path => "[Errno 36] File name too long: " ++ Text.quoted path
  | nulInPath => "embedded null byte"
  | noPath => "expected str, bytes or os.PathLike object, not list"

/-- Whether an error tells of the files there are, and not of a path that no file can have. -/
def isAboutFiles : FileError → Bool
  | nulInPath => false
  | noPath => false
  | _ => true

end FileError

namespace Path

/-- The parts of a path between slashes, without the empty ones. -/
def parts (path : String) : List String :=
  (Text.fullPieces '/' path.toList).map String.ofList

/-- Whether a path starts at the root of all files. -/
def isAbsolute (path : String) : Bool := path.toList.head? == some '/'

/-- Whether a path ends in a slash. -/
def endsInSlash (path : String) : Bool := path.toList.getLast? == some '/'

/-- The slashes at the start of a path that are kept: two in a row are, more count as one. -/
def rootMark (path : String) : String :=
  match (path.toList.takeWhile (· == '/')).length with
  | 0 => ""
  | 2 => "//"
  | _ => "/"

/-- A path without empty parts, parts `.` and a final slash. -/
def simplified (path : String) : String :=
  let body := rootMark path ++ "/".intercalate ((parts path).filter fun p => p != ".")
  if body.isEmpty then "." else body

/-- A path followed by another. -/
def join (start next : String) : String := if isAbsolute next then next else start ++ "/" ++ next

/-- Bytes of a name that are too many. -/
def nameLimit : Nat := 256

/-- Bytes of a path that are too many. -/
def pathLimit : Nat := 4096

end Path

/-- Directories and files by their place, which is the list of names that lead there from the root.
The root, the place `[]`, is always there. -/
structure FileTree where
  entries : List (List String × Entry) := []
  /-- The place from which paths are followed. -/
  home : List String := []
  deriving Repr

namespace FileTree

/-- What is at a place. -/
def find? (t : FileTree) (place : List String) : Option Entry :=
  if place.isEmpty then some .directory else t.entries.lookup place

/-- The entries after one is put at a place. -/
def putEntry (place : List String) (e : Entry) :
    List (List String × Entry) → List (List String × Entry)
  | [] => [(place, e)]
  | x :: rest => if x.1 = place then (place, e) :: rest else x :: putEntry place e rest

/-- The tree with an entry at a place. -/
def put (t : FileTree) (place : List String) (e : Entry) : FileTree :=
  { t with entries := putEntry place e t.entries }

theorem lookup_putEntry_self (place : List String) (e : Entry)
    (entries : List (List String × Entry)) : (putEntry place e entries).lookup place = some e := by
  induction entries with
  | nil => simp [putEntry]
  | cons x rest ih =>
    unfold putEntry
    split
    · simp
    · rename_i h
      rw [List.lookup_cons, beq_false_of_ne (Ne.symm h)]
      exact ih

theorem lookup_putEntry_of_ne {place other : List String} (h : other ≠ place) (e : Entry)
    (entries : List (List String × Entry)) :
    (putEntry place e entries).lookup other = entries.lookup other := by
  induction entries with
  | nil => simp [putEntry, List.lookup_cons, beq_false_of_ne h]
  | cons x rest ih =>
    unfold putEntry
    split
    · rename_i hx
      obtain ⟨first, value⟩ := x
      subst hx
      simp [List.lookup_cons, beq_false_of_ne h]
    · rw [List.lookup_cons, List.lookup_cons, ih]

theorem find?_put_self (t : FileTree) {place : List String} (h : place ≠ []) (e : Entry) :
    (t.put place e).find? place = some e := by
  simp [find?, put, h, lookup_putEntry_self]

theorem find?_put_of_ne (t : FileTree) {place other : List String} (h : other ≠ place)
    (e : Entry) : (t.put place e).find? other = t.find? other := by
  simp [find?, put, lookup_putEntry_of_ne h]

/-- The tree with the directories on the way to a place, from the place `done` on. -/
def putDirectories (t : FileTree) (done : List String) : List String → FileTree
  | [] => t
  | name :: rest =>
      let place := done ++ [name]
      putDirectories (t.put place .directory) place rest

/-- A tree with nothing but its home. -/
def withHome (home : List String) : FileTree :=
  putDirectories { home := home } [] home

/-- The place reached by taking one part of a path from a directory, whatever is there. -/
def stepPlace (path : String) (place : List String) (part : String) :
    Except FileError (List String) :=
  if part = "." then .ok place
  else if part = ".." then .ok place.dropLast
  else if Path.nameLimit ≤ part.utf8ByteSize then .error (.nameTooLong path)
  else .ok (place ++ [part])

/-- The directory reached by following the parts of a path. -/
def walk (t : FileTree) (path : String) (place : List String) :
    List String → Except FileError (List String)
  | [] => .ok place
  | part :: rest =>
      match stepPlace path place part with
      | .error e => .error e
      | .ok next =>
          match t.find? next with
          | some .directory => walk t path next rest
          | some (.file _) => .error (.notDirectory path)
          | none => .error (.notFound path)

/-- The place to which a path leads. Every part but the last has to be a directory. -/
def locate (t : FileTree) (path : String) : Except FileError (List String) :=
  if path.toList.contains (Char.ofNat 0) then .error .nulInPath
  else if Path.pathLimit ≤ path.utf8ByteSize then .error (.nameTooLong path)
  else
    let start := if Path.isAbsolute path then [] else t.home
    let parts := Path.parts path
    match parts.getLast? with
    | none => if Path.isAbsolute path then .ok [] else .error (.notFound path)
    | some last =>
        match t.walk path start parts.dropLast with
        | .error e => .error e
        | .ok place => stepPlace path place last

/-- The content of a file. -/
def read (t : FileTree) (path : String) : Except FileError Bytes :=
  match t.locate path with
  | .error e => .error e
  | .ok place =>
      match t.find? place with
      | some (.file content) =>
          if Path.endsInSlash path then .error (.notDirectory path) else .ok content
      | some .directory => .error (.isDirectory path)
      | none => .error (.notFound path)

/-- The tree after a file is created or replaced. -/
def write (t : FileTree) (path : String) (content : Bytes) : Except FileError FileTree :=
  match t.locate path with
  | .error e => .error e
  | .ok place =>
      if Path.endsInSlash path then .error (.isDirectory path)
      else
        match t.find? place with
        | some .directory => .error (.isDirectory path)
        | _ => .ok (t.put place (.file content))

/-- Whether a path leads to a file or a directory. It cannot be told of a name that is too long. -/
def reaches (t : FileTree) (path : String) : Except FileError Bool :=
  match t.locate path with
  | .error (.nameTooLong path) => .error (.nameTooLong path)
  | .error _ => .ok false
  | .ok place =>
      match t.find? place with
      | some (.file _) => .ok !Path.endsInSlash path
      | some .directory => .ok true
      | none => .ok false

/-- The path from the tree's home to a place below it. -/
def pathFromHome? (t : FileTree) (place : List String) : Option String :=
  if t.home.isPrefixOf place then some ("/".intercalate (place.drop t.home.length)) else none

/-- The files that are new or have other contents than in an earlier tree, by their places. -/
def changedSince (before after : FileTree) : List (List String × Bytes) :=
  after.entries.filterMap fun x =>
    match x.2 with
    | .directory => none
    | .file content => if before.find? x.1 = some (.file content) then none else some (x.1, content)

end FileTree
end Reckoner
