import Reckoner.Contract.Documents
import Reckoner.Contract.Language
import Reckoner.FileTree
import Reckoner.Json.Reader

/-!
# Stores of schema documents

A store gives out the schema documents of a directory by their names. The first document that is had
under a name is kept, and from then on it is given out whatever becomes of the file. A document that
cannot be had is not remembered, so it may be asked for again.
-/

namespace Reckoner
namespace Contract

/-- Why a schema document cannot be had. -/
inductive StoreFailure where
  | noDirectory (path : String)
  | missing (path : String)
  | file (e : FileError)
  | undecodable
  | notJson
  /-- An integer of the document has this many digits, more than are read. -/
  | longInteger (digits : Nat)
  | notSchema (name : String)
  /-- A search pattern of the document asks for something impossible. -/
  | pattern (f : Pattern.Fault)
  deriving DecidableEq, Repr

/-- The wording of a failure. What the decoder and the reader say of a text is not worded here. -/
def StoreFailure.message : StoreFailure → Option String
  | noDirectory path => some ("Schema directory not found: " ++ path)
  | missing path => some ("Schema not found: " ++ path)
  | file e => some e.message
  | undecodable => none
  | notJson => none
  | longInteger digits => some (Failure.integerLength (some digits)).message
  | notSchema name => some ("Invalid JSON Schema in " ++ name ++ ".json")
  | pattern f => some f.message

/-- A directory of schema documents, and those that have been had from it. -/
structure SchemaStore where
  directory : String
  /-- The files that the store brings along; without them it reads those around it. -/
  own : Option FileTree := none
  /-- The documents that have been had, by their names. -/
  known : List (String × Json) := []

namespace SchemaStore

/-- The file of a schema document. -/
def fileName (name : String) : String := name ++ ".json"

/-- The directory of the schemas that come with the program. -/
def shippedDirectory : String := "schema"

/-- The schemas that come with the program, by their names. -/
def shipped : List (String × Schema) :=
  [("batch_report", reportSchema), ("calculator_config", settingsSchema)]

/-- The files of the schemas that come with the program. -/
def shippedFiles : FileTree where
  entries :=
    ([shippedDirectory], .directory) ::
      shipped.map fun s =>
        ([shippedDirectory, fileName s.1], .file (Utf8.encode s.2.document.print.toList))

/-- The store of the schemas that come with the program. -/
def standard : SchemaStore := { directory := shippedDirectory, own := some shippedFiles }

/-- A store for a directory. -/
def openAt (t : FileTree) (directory : String) : Except StoreFailure SchemaStore :=
  let directory := Path.simplified directory
  match t.reaches directory with
  | .error e => .error (.file e)
  | .ok false => .error (.noDirectory directory)
  | .ok true => .ok { directory := directory }

/-- The path of a schema document. -/
def pathOf (s : SchemaStore) (name : String) : String :=
  Path.simplified (Path.join s.directory (fileName name))

/-- The schema document that some bytes write. -/
def documentOf (name : String) (bs : Bytes) : Except StoreFailure Json :=
  match Utf8.decode? bs with
  | none => .error .undecodable
  | some cs =>
      match Json.load cs with
      | .error .malformed => .error .notJson
      | .error (.longInteger digits) => .error (.longInteger digits)
      | .ok v =>
          match defect? v with
          | none => .ok v
          | some .misfit => .error (.notSchema name)
          | some (.pattern f) => .error (.pattern f)

/-- The schema document in a file. -/
def readDocument (s : SchemaStore) (t : FileTree) (name : String) : Except StoreFailure Json :=
  let t := s.own.getD t
  let path := s.pathOf name
  match t.reaches path with
  | .error e => .error (.file e)
  | .ok false => .error (.missing path)
  | .ok true =>
      match t.read path with
      | .error e => .error (.file e)
      | .ok bs => documentOf name bs

/-- The schema document with a name, and the store after it is asked for. -/
def load (s : SchemaStore) (t : FileTree) (name : String) :
    Except StoreFailure Json × SchemaStore :=
  match s.known.lookup name with
  | some v => (.ok v, s)
  | none =>
      match s.readDocument t name with
      | .ok v => (.ok v, { s with known := (name, v) :: s.known })
      | .error f => (.error f, s)

theorem load_known {s : SchemaStore} {name : String} {v : Json}
    (h : s.known.lookup name = some v) (t : FileTree) : s.load t name = (.ok v, s) := by
  simp [load, h]

theorem load_error {s : SchemaStore} {t : FileTree} {name : String} {f : StoreFailure}
    (h : (s.load t name).1 = .error f) : (s.load t name).2 = s := by
  unfold load at h ⊢
  split at h
  · cases h
  · split at h
    · cases h
    · rfl

end SchemaStore
end Contract
end Reckoner
