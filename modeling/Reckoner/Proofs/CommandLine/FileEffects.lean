import Reckoner.Proofs.CommandLine.ArgumentPaths
import Reckoner.Proofs.CommandLine.Endings

/-!
# Effects on files

A batch reads first and writes last.  What keeps it from its output keeps it from changing any file.
Otherwise the answers are written, to the input as it was found, and after them the report; nothing
else is touched, and a report that cannot be written takes nothing back.

**Results.**
* `not_stopped_iff`: a batch is stopped, or it has an output.
* `exists_write_batch`: the files that a batch leaves, by the writes that lead to them.
* `run_files`: the effects of a batch on files.
-/

namespace Reckoner
namespace CommandLine

open Arguments

/-- Whether something keeps a batch from its output. -/
inductive Stopped (a : Arguments) (t : FileTree) (inputPath : String) : Prop
  /-- The settings cannot be had. -/
  | settings
      {f : Settings.LoadFailure}
      (hsettings : a.settings t = .error f)
  /-- The input cannot be read. -/
  | input
      (hread : ∀ content : Bytes, t.read inputPath ≠ .ok content)
  /-- The output cannot be opened, or there is no place for it. -/
  | output
      {s : Settings}
      (hsettings : a.settings t = .ok s)
      (hwrite : ∀ outputPath : String, a.output.path? s = some outputPath →
        ¬t.CanWrite outputPath)

section Batch

variable {a : Arguments}
variable {t : FileTree}
variable {s : Settings}
variable {inputPath outputPath : String}
variable {content : Bytes}

/-- A batch that is not stopped has an output. -/
theorem not_stopped_iff
    (hinput : a.inputFile = some inputPath) :
    ¬Stopped a t inputPath ↔
      ∃ (s : Settings) (content : Bytes) (outputPath : String),
        HasOutput a t s inputPath content outputPath := by
  constructor
  · intro h
    cases hsettings : a.settings t with
    | error f =>
        exact absurd (.settings hsettings) h
    | ok s =>
        have hread : ∃ content : Bytes, t.read inputPath = .ok content := by
          by_contra hno
          exact h (.input (not_exists.mp hno))
        have hwrite : ∃ outputPath : String,
            a.output.path? s = some outputPath ∧ t.CanWrite outputPath := by
          by_contra hno
          exact h (.output hsettings fun path hpath hcan => hno ⟨path, hpath, hcan⟩)
        obtain ⟨content, hcontent⟩ := hread
        obtain ⟨outputPath, hpath, hcan⟩ := hwrite
        exact ⟨s, content, outputPath, ⟨hsettings, hinput, hcontent⟩, hpath, hcan⟩
  · rintro ⟨s, content, outputPath, ⟨hsettings, -, hread⟩, hpath, hcan⟩ hstopped
    cases hstopped with
    | settings hfailed =>
        rw [hsettings] at hfailed
        cases hfailed
    | input hunread =>
        exact hunread content hread
    | output hsettings' hunwritten =>
        rw [hsettings] at hsettings'
        cases hsettings'
        exact hunwritten outputPath hpath hcan

/-- A failure of a file changes no more files. -/
theorem files_stoppedByFile
    (e : FileError)
    (log : List LogEntry)
    (files : FileTree) :
    (stoppedByFile e log files).files = files := by
  unfold stoppedByFile
  split <;> rfl

/-- A batch that fails leaves the files as they were when it failed. -/
theorem files_batch_of_error
    {e : FileError}
    (h : (Batch.processFile t inputPath a.output s).result = .error e) :
    (batch a s t inputPath).files = (Batch.processFile t inputPath a.output s).files := by
  unfold batch
  dsimp only
  rw [h]
  exact files_stoppedByFile e _ _

/-- A batch that cannot read its input, or open its output, changes no file. -/
theorem files_batch_of_stopped
    (h : (∀ content : Bytes, t.read inputPath ≠ .ok content) ∨
      ∀ outputPath : String, a.output.path? s = some outputPath → ¬t.CanWrite outputPath) :
    (batch a s t inputPath).files = t := by
  cases hread : t.read inputPath with
  | error e =>
      obtain ⟨hresult, hfiles⟩ := Batch.processFile_of_read hread
      rw [files_batch_of_error hresult, hfiles]
  | ok content =>
      have hwrite := h.resolve_left fun hno => hno content hread
      cases hpath : a.output.path? s with
      | none =>
          obtain ⟨hresult, hfiles⟩ := Batch.processFile_of_nowhere hread hpath
          rw [files_batch_of_error hresult, hfiles]
      | some outputPath =>
          obtain ⟨e, he⟩ := FileTree.exists_error_of_not_canWrite (hwrite outputPath hpath) _
          obtain ⟨hresult, hfiles⟩ := Batch.processFile_of_write hread hpath he
          rw [files_batch_of_error hresult, hfiles]

/-- A batch with an output writes its answers, and then its report, if one is asked for and can be
written. -/
theorem exists_write_batch
    (hread : t.read inputPath = .ok content)
    (houtput : a.output.path? s = some outputPath)
    (hwrite : t.CanWrite outputPath) :
    ∃ answered : FileTree,
      t.write outputPath
          (Utf8.encode (Batch.answerText (Batch.lineResults s (Text.fileLines content)))) =
        .ok answered ∧
      ((batch a s t inputPath).files = answered ∨
        ∃ (reportPath : String) (text : Bytes),
          givenPath a.report = some reportPath ∧
          answered.write reportPath text = .ok (batch a s t inputPath).files) := by
  obtain ⟨hresult, hfiles⟩ := Batch.processFile_eq_ok hread houtput hwrite
  refine ⟨_, hfiles, ?_⟩
  unfold batch
  dsimp only
  rw [hresult]
  dsimp only
  cases hgiven : givenPath a.report with
  | none =>
      exact .inl rfl
  | some reportPath =>
      dsimp only
      cases hreport : Batch.writeReport _ _ reportPath with
      | error failure =>
          cases failure with
          | file e =>
              exact .inl (files_stoppedByFile e _ _)
          | contract v =>
              exact .inl rfl
      | ok files =>
          unfold Batch.writeReport at hreport
          split at hreport
          · cases hreport
          · split at hreport
            · cases hreport
            · next hwritten =>
                cases hreport
                exact .inr ⟨reportPath, _, rfl, hwritten⟩

/-- Whether the output or the report of a batch opens at a place. -/
inductive Touches (a : Arguments) (t : FileTree) (s : Settings) (place : List String) : Prop
  | output
      {outputPath : String}
      (hpath : a.output.path? s = some outputPath)
      (hopens : t.OpensAt outputPath place)
  | report
      {reportPath : String}
      (hgiven : givenPath a.report = some reportPath)
      (hopens : t.OpensAt reportPath place)

/-- A batch with an output changes nothing that it does not touch. -/
theorem find?_batch
    (hread : t.read inputPath = .ok content)
    (houtput : a.output.path? s = some outputPath)
    (hwrite : t.CanWrite outputPath)
    {place : List String}
    (hplace : ¬Touches a t s place) :
    (batch a s t inputPath).files.find? place = t.find? place := by
  obtain ⟨answered, hanswered, hfiles⟩ := exists_write_batch hread houtput hwrite
  have hanswers : answered.find? place = t.find? place :=
    FileTree.find?_of_write hanswered fun hopens => hplace (.output houtput hopens)
  rcases hfiles with hfiles | ⟨reportPath, text, hgiven, hreport⟩
  · rw [hfiles, hanswers]
  · rw [← hanswers]
    refine FileTree.find?_of_write hreport fun hopens => hplace (.report hgiven ?_)
    exact (FileTree.opensAt_of_write hanswered reportPath place).mp hopens

/-- Its answers are read from the output, if the report goes elsewhere or nowhere. -/
theorem read_batch
    (hread : t.read inputPath = .ok content)
    (houtput : a.output.path? s = some outputPath)
    (hwrite : t.CanWrite outputPath)
    (hreport : ∀ (reportPath : String) (place : List String),
      givenPath a.report = some reportPath → t.OpensAt outputPath place →
      ¬t.OpensAt reportPath place) :
    (batch a s t inputPath).files.read outputPath =
      .ok (Utf8.encode (Batch.answerText (Batch.lineResults s (Text.fileLines content)))) := by
  obtain ⟨answered, hanswered, hfiles⟩ := exists_write_batch hread houtput hwrite
  have hanswers := FileTree.read_of_write hanswered
  rcases hfiles with hfiles | ⟨reportPath, text, hgiven, hwritten⟩
  · rw [hfiles, hanswers]
  · refine FileTree.read_of_write_elsewhere hwritten (fun place => ?_) hanswers
    rw [FileTree.opensAt_of_write hanswered, FileTree.opensAt_of_write hanswered]
    exact hreport reportPath place hgiven

/-- A run that is stopped changes no file. -/
theorem files_perform_of_stopped
    (hinput : a.inputFile = some inputPath)
    (h : Stopped a t inputPath)
    (input : List Char) :
    (perform a t input).files = t := by
  cases hsettings : a.settings t with
  | error f =>
      unfold perform
      rw [hsettings]
      cases f <;> rfl
  | ok s =>
      rw [perform_eq_batch hsettings hinput]
      refine files_batch_of_stopped ?_
      cases h with
      | settings hfailed =>
          rw [hsettings] at hfailed
          cases hfailed
      | input hread =>
          exact .inl hread
      | output hsettings' hwrite =>
          rw [hsettings] at hsettings'
          cases hsettings'
          exact .inr hwrite

/-- The path of a report is part of the words, so it holds no NUL. -/
theorem not_holdsNul_report
    {words : List String}
    {reportPath : String}
    (hwords : Request.ofTexts words = .perform a)
    (hnul : ∀ word ∈ words, ¬Path.HoldsNul word)
    (hgiven : givenPath a.report = some reportPath) :
    ¬Path.HoldsNul reportPath := by
  have hchars : ∀ word ∈ words, ∀ c ∈ word.toList, c ≠ Char.ofNat 0 := by
    rintro word hword c hc rfl
    exact hnul word hword hc
  have hreport : reportPath ∈ a.report :=
    (Option.filter_eq_some_iff.mp hgiven).1
  exact fun hholds => (Request.within_ofTexts hchars hwords).report _ hreport _ hholds rfl

end Batch

end CommandLine
end Reckoner
