import Reckoner.Contract.Store
import Reckoner.Proofs.Files.Access
import Reckoner.Proofs.Json.ReadPrinted
import Reckoner.Proofs.Text.Decoding

/-!
# Histories of a store

A store is asked for schema documents while the files that it reads change.  What it remembers at any
time are the documents that it has given out, the first one under each name.  So a name that has been
answered with a document is answered with the same one from then on, and a name that has not is answered
with the document that the file holds at that time, if it holds one.

**Results.**
* `readDocument_eq_ok_iff`: which document is in a file.
* `lookup_load`: what a store remembers after it is asked for a name.
* `Remembers.answers`: every answer is the first document of its name, or else read from the files.
* `answers_laws`: the laws of a history.
-/

namespace Reckoner
namespace Contract
namespace SchemaStore

/-- Whether a store is as it is opened. -/
inductive IsOpened : SchemaStore → Prop
  | shipped :
      IsOpened standard
  | directory
      {t : FileTree} {path : String} {s : SchemaStore}
      (hopen : openAt t path = .ok s) :
      IsOpened s

/-- A store that is opened has not been asked for anything. -/
theorem IsOpened.known_eq_nil
    {s : SchemaStore}
    (h : s.IsOpened) :
    s.known = [] := by
  cases h with
  | shipped =>
      rfl
  | directory hopen =>
      unfold openAt at hopen
      dsimp only at hopen
      split at hopen
      · cases hopen
      · cases hopen
      · cases hopen
        rfl

/-- A directory that is there can be opened. -/
theorem openAt_of_reaches
    {t : FileTree} {directory : String}
    (h : t.reaches (Path.simplified directory) = .ok true) :
    openAt t directory = .ok { directory := Path.simplified directory } := by
  unfold openAt
  dsimp only
  generalize t.reaches (Path.simplified directory) = reached at h ⊢
  subst h
  rfl

section Documents

variable {t : FileTree}
variable {name path : String}
variable {v : Json}

/-- The files that a store reads, those around it being `t`. -/
def filesRead (s : SchemaStore) (t : FileTree) : FileTree :=
  s.own.getD t

/-- Whether the file at a path holds a schema document: it can be read, its bytes are the text of a JSON
value that can be loaded, and the value has no defect as a schema. -/
def HoldsDocument (t : FileTree) (path : String) (v : Json) : Prop :=
  ∃ (bs : Bytes) (cs : List Char),
    t.read path = .ok bs ∧
    Utf8.decode? bs = some cs ∧
    Json.load cs = .ok v ∧
    defect? v = none

theorem documentOf_eq_ok_iff
    {bs : Bytes} :
    documentOf name bs = .ok v ↔
      ∃ cs : List Char,
        Utf8.decode? bs = some cs ∧ Json.load cs = .ok v ∧ defect? v = none := by
  constructor
  · intro h
    unfold documentOf at h
    split at h
    · cases h
    · next cs hbytes =>
        split at h
        · cases h
        · cases h
        · next htext =>
            split at h
            · next hdefect =>
                cases h
                exact ⟨cs, hbytes, htext, hdefect⟩
            · cases h
            · cases h
  · rintro ⟨cs, hbytes, htext, hdefect⟩
    simp [documentOf, hbytes, htext, hdefect]

/-- A store reads like one without files of its own that is among the files it reads. -/
theorem readDocument_filesRead
    (s : SchemaStore)
    (t : FileTree)
    (name : String) :
    readDocument { directory := s.directory } (s.filesRead t) name = s.readDocument t name := by
  have hpath : ({ directory := s.directory } : SchemaStore).pathOf name = s.pathOf name := by
    rfl
  unfold readDocument
  rw [hpath]
  dsimp only
  rw [Option.getD_none, filesRead]

/-- Which document is in the file with a name. -/
theorem readDocument_eq_ok_iff
    {s : SchemaStore} :
    s.readDocument t name = .ok v ↔ HoldsDocument (s.filesRead t) (s.pathOf name) v := by
  unfold readDocument HoldsDocument
  dsimp only
  rw [← filesRead]
  constructor
  · intro h
    split at h
    · cases h
    · cases h
    · split at h
      · cases h
      · next bs hread =>
          obtain ⟨cs, hcs⟩ := documentOf_eq_ok_iff.mp h
          exact ⟨bs, cs, hread, hcs⟩
  · rintro ⟨bs, cs, hread, hcs⟩
    rw [FileTree.reaches_of_read hread, hread]
    exact documentOf_eq_ok_iff.mpr ⟨cs, hcs⟩

end Documents

section Load

variable (s : SchemaStore)
variable (t : FileTree)
variable (name : String)

/-- A document that is remembered is given out, any other one is read. -/
theorem load_result :
    (s.load t name).1 = (s.known.lookup name).elim (s.readDocument t name) .ok := by
  unfold load
  cases s.known.lookup name with
  | some v =>
      rfl
  | none =>
      cases s.readDocument t name <;> rfl

/-- Being asked for a name, a store remembers the document that it gives out, and of the other names what
it has remembered before. -/
theorem lookup_load
    (other : String) :
    (s.load t name).2.known.lookup other =
      if other = name then (s.load t name).1.toOption else s.known.lookup other := by
  unfold load
  cases hknown : s.known.lookup name with
  | some v =>
      split_ifs with hother
      · rw [hother, hknown]
        rfl
      · rfl
  | none =>
      cases s.readDocument t name with
      | ok v =>
          dsimp only
          rw [List.lookup_cons]
          split_ifs with hother
          · rw [hother, beq_self_eq_true]
            rfl
          · rw [beq_false_of_ne hother]
      | error f =>
          split_ifs with hother
          · rw [hother, hknown]
            rfl
          · rfl

/-- A store keeps its directory and its files whatever it is asked for. -/
theorem load_places :
    (s.load t name).2.directory = s.directory ∧ (s.load t name).2.own = s.own := by
  unfold load
  split
  · exact ⟨rfl, rfl⟩
  · split <;> exact ⟨rfl, rfl⟩

end Load

/-- Something that happens to a store or to the files that it reads. -/
inductive Step where
  /-- The files are now others. -/
  | change (t : FileTree)
  /-- The store is asked for a name. -/
  | load (name : String)

/-- Whether a step concerns a name: it asks for this name, or it changes the files. -/
def Step.concerns (name : String) : Step → Bool
  | change _ => true
  | load other => other == name

/-- What a store answers when it is asked for a name, and the files that it reads then. -/
structure Answer where
  name : String
  files : FileTree
  result : Except StoreFailure Json

/-- The store after its files have become others. -/
def withFiles (s : SchemaStore) (t : FileTree) : SchemaStore :=
  { s with own := s.own.map fun _ => t }

/-- The files that a store reads after a change are the new ones. -/
theorem filesRead_withFiles
    (s : SchemaStore)
    (t : FileTree) :
    (s.withFiles t).filesRead t = t := by
  unfold withFiles filesRead
  cases s.own <;> rfl

/-- The answers of a store in the course of some steps. -/
def answers (s : SchemaStore) (t : FileTree) : List Step → List Answer
  | [] => []
  | .change t' :: steps => answers (s.withFiles t') t' steps
  | .load name :: steps =>
      ⟨name, s.filesRead t, (s.load t name).1⟩ :: answers (s.load t name).2 t steps

/-- What a store answers after a change, it answers with the new files before it. -/
theorem answers_change_load
    (s : SchemaStore)
    (t t' : FileTree)
    (name : String)
    (steps : List Step) :
    s.answers t (.change t' :: .load name :: steps) =
      ⟨name, t', ((s.withFiles t').load t' name).1⟩ ::
        ((s.withFiles t').load t' name).2.answers t' steps := by
  rw [answers, answers, filesRead_withFiles]

section History

variable {s : SchemaStore}
variable {t : FileTree}
variable {steps : List Step}
variable {name : String}
variable {v : Json}

/-- The document that a name has first been answered with. -/
def firstDocument (name : String) (past : List Answer) : Option Json :=
  past.findSome? fun a => if a.name = name then a.result.toOption else none

theorem firstDocument_nil :
    firstDocument name [] = none := by
  rfl

theorem firstDocument_append
    (past later : List Answer) :
    firstDocument name (past ++ later) =
      (firstDocument name past).or (firstDocument name later) :=
  List.findSome?_append

theorem firstDocument_cons
    (a : Answer)
    (later : List Answer) :
    firstDocument name (a :: later) =
      (if a.name = name then a.result.toOption else none).or (firstDocument name later) := by
  unfold firstDocument
  rw [List.findSome?_cons]
  cases (if a.name = name then a.result.toOption else none) <;> rfl

theorem firstDocument_eq_none
    {past : List Answer}
    (h : ∀ a ∈ past, a.name = name → ∃ f : StoreFailure, a.result = .error f) :
    firstDocument name past = none := by
  refine List.findSome?_eq_none_iff.mpr fun a ha => ?_
  split_ifs with hname
  · obtain ⟨f, hf⟩ := h a ha hname
    rw [hf]
    rfl
  · rfl

/-- The first document of a name is an answer with this name, and those before are none. -/
theorem exists_of_firstDocument
    {past : List Answer}
    (h : firstDocument name past = some v) :
    ∃ (before : List Answer) (a : Answer) (after : List Answer),
      past = before ++ a :: after ∧
      a.name = name ∧
      a.result = .ok v ∧
      firstDocument name before = none := by
  obtain ⟨before, a, after, rfl, hdocument, hnone⟩ := List.findSome?_eq_some_iff.mp h
  split_ifs at hdocument with hname
  refine ⟨before, a, after, rfl, hname, ?_, List.findSome?_eq_none_iff.mpr hnone⟩
  cases hresult : a.result with
  | ok w =>
      rw [hresult] at hdocument
      cases hdocument
      rfl
  | error f =>
      rw [hresult] at hdocument
      cases hdocument

/-- Whether a store remembers of each name the document that it has first been answered with. -/
def Remembers (s : SchemaStore) (past : List Answer) : Prop :=
  ∀ name : String, s.known.lookup name = firstDocument name past

/-- Whether an answer is the document that its name has first been answered with, or else what is read
from the files. -/
def AnswersAfter (s : SchemaStore) (past : List Answer) (a : Answer) : Prop :=
  a.result =
    (firstDocument a.name past).elim
      (readDocument { directory := s.directory } a.files a.name) .ok

/-- One load: the store remembers its answer as well. -/
theorem Remembers.load
    {past : List Answer}
    (h : s.Remembers past)
    (t : FileTree)
    (name : String) :
    (s.load t name).2.Remembers (past ++ [⟨name, s.filesRead t, (s.load t name).1⟩]) := by
  intro other
  rw [lookup_load, firstDocument_append, firstDocument_cons, firstDocument_nil, Option.or_none,
    ← h other]
  by_cases hother : other = name
  · subst hother
    rw [if_pos rfl, if_pos rfl, load_result]
    cases s.known.lookup other with
    | some w =>
        simp [Except.toOption]
    | none =>
        simp
  · rw [if_neg hother, if_neg (Ne.symm hother), Option.or_none]

/-- One load: what the store answers. -/
theorem Remembers.answersAfter
    {past : List Answer}
    (h : s.Remembers past)
    (t : FileTree)
    (name : String) :
    s.AnswersAfter past ⟨name, s.filesRead t, (s.load t name).1⟩ := by
  rw [AnswersAfter, load_result, h name, readDocument_filesRead]

/-- A run: every answer is the first document of its name, or else read from the files. -/
theorem Remembers.answers
    {past before after : List Answer}
    {a : Answer}
    (h : s.Remembers past)
    (hanswers : s.answers t steps = before ++ a :: after) :
    s.AnswersAfter (past ++ before) a := by
  induction steps generalizing s t past before with
  | nil =>
      cases before <;> cases hanswers
  | cons step steps ih =>
      cases step with
      | change t' =>
          exact ih (s := s.withFiles t') h hanswers
      | load name =>
          rw [SchemaStore.answers] at hanswers
          cases before with
          | nil =>
              cases hanswers
              rw [List.append_nil]
              exact h.answersAfter t name
          | cons b before =>
              obtain ⟨rfl, hrest⟩ := List.cons.inj hanswers
              have hlater := ih (h.load t name) hrest
              rwa [AnswersAfter, (s.load_places t name).1, List.append_assoc] at hlater

/-- Whether two stores are the same as far as a name is concerned. -/
structure SameFor (name : String) (s s' : SchemaStore) : Prop where
  directory : s.directory = s'.directory
  own : s.own = s'.own
  lookup : s.known.lookup name = s'.known.lookup name

/-- What is asked for another name does not matter to the answers with a name. -/
theorem SameFor.answers
    {s' : SchemaStore}
    (h : SameFor name s s')
    (t : FileTree)
    (steps : List Step) :
    (s.answers t steps).filter (fun a => a.name == name) =
      s'.answers t (steps.filter (Step.concerns name)) := by
  induction steps generalizing s s' t with
  | nil =>
      rfl
  | cons step steps ih =>
      cases step with
      | change t' =>
          have hchanged : SameFor name (s.withFiles t') (s'.withFiles t') := by
            refine ⟨h.directory, ?_, h.lookup⟩
            rw [withFiles, h.own, withFiles]
          rw [List.filter_cons_of_pos rfl, SchemaStore.answers, SchemaStore.answers, ih hchanged]
      | load other =>
          rw [SchemaStore.answers, List.filter_cons, List.filter_cons, Step.concerns]
          by_cases hother : other = name
          · subst hother
            have hfiles : s.filesRead t = s'.filesRead t := by
              rw [filesRead, h.own, filesRead]
            have hresult : (s.load t other).1 = (s'.load t other).1 := by
              rw [load_result, load_result, h.lookup, ← readDocument_filesRead, h.directory, hfiles,
                readDocument_filesRead]
            have hafter : SameFor other (s.load t other).2 (s'.load t other).2 := by
              refine ⟨?_, ?_, ?_⟩
              · rw [(s.load_places t other).1, (s'.load_places t other).1, h.directory]
              · rw [(s.load_places t other).2, (s'.load_places t other).2, h.own]
              · rw [lookup_load, lookup_load, hresult, h.lookup]
            rw [if_pos (beq_self_eq_true other), if_pos (beq_self_eq_true other),
              SchemaStore.answers, hfiles, hresult, ih hafter]
          · have hafter : SameFor name (s.load t other).2 s' := by
              refine ⟨?_, ?_, ?_⟩
              · rw [(s.load_places t other).1, h.directory]
              · rw [(s.load_places t other).2, h.own]
              · rw [lookup_load, if_neg (Ne.symm hother), h.lookup]
            rw [beq_false_of_ne hother, if_neg Bool.false_ne_true, if_neg Bool.false_ne_true,
              ih hafter]

/-- A name that has been answered with a document is answered with it from then on. -/
theorem Remembers.keeps
    (h : s.Remembers [])
    {before between after : List Answer}
    {a b : Answer}
    (hanswers : s.answers t steps = before ++ a :: between ++ b :: after)
    (hname : b.name = a.name)
    (ha : a.result = .ok v) :
    b.result = .ok v := by
  have hsplit : s.answers t steps = before ++ a :: (between ++ b :: after) := by
    simpa using hanswers
  have hfirst := h.answers hsplit
  have hlater := h.answers hanswers
  rw [AnswersAfter, List.nil_append] at hfirst hlater
  have hdocument : firstDocument a.name (before ++ a :: between) = some v := by
    rw [firstDocument_append, firstDocument_cons, if_pos rfl, ha]
    cases hbefore : firstDocument a.name before with
    | none =>
        rfl
    | some w =>
        -- then the earlier answer is already the first document
        rw [hbefore, ha] at hfirst
        cases hfirst
        rfl
  rw [hlater, hname, hdocument]
  rfl

/-- Until then it is answered with a document exactly where the file holds this document. -/
theorem Remembers.reads
    (h : s.Remembers [])
    {before after : List Answer}
    {b : Answer}
    (hanswers : s.answers t steps = before ++ b :: after)
    (hnone : firstDocument b.name before = none) :
    b.result = .ok v ↔ HoldsDocument b.files (s.pathOf b.name) v := by
  have hread := h.answers hanswers
  rw [AnswersAfter, List.nil_append, hnone, Option.elim_none] at hread
  rw [hread]
  exact readDocument_eq_ok_iff

/-- A document that is given out was in the file when the name was asked for, then or before. -/
theorem Remembers.exists_holdsDocument
    (h : s.Remembers [])
    {before after : List Answer}
    {b : Answer}
    (hanswers : s.answers t steps = before ++ b :: after)
    (hb : b.result = .ok v) :
    ∃ a ∈ before ++ [b], a.name = b.name ∧ HoldsDocument a.files (s.pathOf b.name) v := by
  cases hdocument : firstDocument b.name before with
  | none =>
      exact ⟨b, by simp, rfl, (h.reads hanswers hdocument).mp hb⟩
  | some w =>
      obtain ⟨earlier, a, between, rfl, hname, ha, hnone⟩ := exists_of_firstDocument hdocument
      obtain rfl : v = w := by
        have hkept := h.keeps hanswers hname.symm ha
        rw [hb] at hkept
        cases hkept
        rfl
      refine ⟨a, by simp, hname, ?_⟩
      rw [← hname] at hnone ⊢
      exact (h.reads (by simpa using hanswers) hnone).mp ha

/-- The laws of a store that is opened and asked for names while its files change.  A name that has been
answered with a document is answered with it from then on, whatever has become of the files.  Until then
it is answered with a document exactly where the file holds one at that time.  Every document that is given
out has no defect as a schema, and was in the file of its name when that was asked for, then or before.
What is asked for other names does not matter to the answers with a name.  And where a store has no document
for a name, it is afterwards as it was before. -/
theorem answers_laws
    (hopened : s.IsOpened)
    (t : FileTree)
    (steps : List Step) :
    (∀ (before : List Answer) (a : Answer) (between : List Answer) (b : Answer)
        (after : List Answer) (v : Json),
      s.answers t steps = before ++ a :: between ++ b :: after →
        b.name = a.name → a.result = .ok v → b.result = .ok v) ∧
    (∀ (before : List Answer) (b : Answer) (after : List Answer) (v : Json),
      s.answers t steps = before ++ b :: after →
        (∀ a ∈ before, a.name = b.name → ∃ f : StoreFailure, a.result = .error f) →
          (b.result = .ok v ↔ HoldsDocument b.files (s.pathOf b.name) v)) ∧
    (∀ (before : List Answer) (b : Answer) (after : List Answer) (v : Json),
      s.answers t steps = before ++ b :: after → b.result = .ok v →
        defect? v = none ∧
        ∃ a ∈ before ++ [b], a.name = b.name ∧ HoldsDocument a.files (s.pathOf b.name) v) ∧
    (∀ name : String,
      (s.answers t steps).filter (fun a => a.name == name) =
        s.answers t (steps.filter (Step.concerns name))) ∧
    (∀ (s' : SchemaStore) (t' : FileTree) (name : String) (f : StoreFailure),
      (s'.load t' name).1 = .error f → (s'.load t' name).2 = s') := by
  have hstart : s.Remembers [] := by
    intro name
    rw [hopened.known_eq_nil]
    rfl
  refine ⟨?keeps, ?reads, ?sound, ?separate, ?unchanged⟩
  case keeps =>
    intro before a between b after v
    exact hstart.keeps
  case reads =>
    intro before b after v hanswers hnone
    exact hstart.reads hanswers (firstDocument_eq_none hnone)
  case sound =>
    intro before b after v hanswers hb
    obtain ⟨a, ha, hname, hholds⟩ := hstart.exists_holdsDocument hanswers hb
    obtain ⟨bs, cs, hread, hbytes, htext, hdefect⟩ := hholds
    exact ⟨hdefect, a, ha, hname, bs, cs, hread, hbytes, htext, hdefect⟩
  case separate =>
    intro name
    exact SameFor.answers ⟨rfl, rfl, rfl⟩ t steps
  case unchanged =>
    intro s' t' name f
    exact load_error

/-- A schema that demands a text. -/
def noteSchema : Json := .object [("type", .string "string")]

/-- The files of a directory with one schema document. -/
def noteFiles : FileTree where
  entries :=
    [(["schema"], .directory),
      (["schema", "note.json"], .file (Utf8.encode noteSchema.print.toList))]

/-- A document that is written after it has been asked for, and removed after it has been given out. -/
theorem answers_laws_removed :
    ∃ (s : SchemaStore) (a b c : Answer) (v : Json),
      s.IsOpened ∧
      s.answers {} [.load "note", .change noteFiles, .load "note", .change {}, .load "note"] =
        [a, b, c] ∧
      (∃ f : StoreFailure, a.result = .error f) ∧
      HoldsDocument noteFiles (s.pathOf "note") v ∧
      b.result = .ok v ∧
      c.files.read (s.pathOf "note") = .error (.notFound "schema/note.json") ∧
      c.result = .ok v := by
  have hopened : IsOpened { directory := Path.simplified "schema" } :=
    .directory (openAt_of_reaches (t := noteFiles) (by decide +kernel))
  have hread :
      noteFiles.read (pathOf { directory := Path.simplified "schema" } "note") =
        .ok (Utf8.encode noteSchema.print.toList) := by
    decide +kernel
  have hremoved :
      FileTree.read {} (pathOf { directory := Path.simplified "schema" } "note") =
        .error (.notFound "schema/note.json") := by
    decide +kernel
  generalize Path.simplified "schema" = directory at hopened hread hremoved
  have hlossless : Json.Lossless (some longestInteger) noteSchema :=
    .object (by simp) (List.forall_mem_singleton.mpr (Json.apart_ofString "type"))
      (List.forall_mem_singleton.mpr (.string (Json.apart_ofString "string")))
  have hdocument : Json.load noteSchema.print.toList = .ok noteSchema := by
    simpa [Json.load] using Json.read_print hlossless (List.forall_mem_nil _)
  have hholds : HoldsDocument noteFiles (pathOf { directory := directory } "note") noteSchema :=
    ⟨_, _, hread, Utf8.decode?_encode _, hdocument, by decide +kernel⟩
  obtain ⟨hkeeps, hreads, -⟩ := answers_laws hopened {}
    [.load "note", .change noteFiles, .load "note", .change {}, .load "note"]
  obtain ⟨a, b, c, hanswers, ⟨ha, haFiles⟩, ⟨hb, hbFiles⟩, hc, hcFiles⟩ :
      ∃ a b c : Answer,
        answers { directory := directory } {}
            [.load "note", .change noteFiles, .load "note", .change {}, .load "note"] =
          [a, b, c] ∧
        (a.name = "note" ∧ a.files = {}) ∧
        (b.name = "note" ∧ b.files = noteFiles) ∧
        c.name = "note" ∧ c.files = {} := by
    rw [answers, answers_change_load, answers_change_load, answers]
    exact ⟨_, _, _, rfl, ⟨rfl, rfl⟩, ⟨rfl, rfl⟩, rfl, rfl⟩
  have habsent : ∃ f : StoreFailure, a.result = .error f := by
    cases hresult : a.result with
    | error f =>
        exact ⟨f, rfl⟩
    | ok v =>
        obtain ⟨bs, -, hbs, -⟩ := (hreads [] a [b, c] v hanswers (by simp)).mp hresult
        rw [haFiles, ha, hremoved] at hbs
        cases hbs
  have hgiven : b.result = .ok noteSchema := by
    refine (hreads [a] b [c] _ hanswers (by simpa using fun _ => habsent)).mpr ?_
    rwa [hbFiles, hb]
  have hkept := hkeeps [a] b [] c [] _ hanswers (hc.trans hb.symm) hgiven
  rw [← hcFiles] at hremoved
  exact ⟨_, a, b, c, _, hopened, hanswers, habsent, hholds, hgiven, hremoved, hkept⟩

end History

end SchemaStore
end Contract
end Reckoner
