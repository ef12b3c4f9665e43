import Reckoner.CommandLine.Run
import Reckoner.Proofs.Batch.FileAnswers
import Reckoner.Proofs.Contract.ReportContract
import Reckoner.Proofs.Json.LongIntegers
import Reckoner.Proofs.Session.Dialogue

/-!
# Endings of runs

How a run ends is told by the files that it finds.  It ends with status 0 if it can have its settings
and, in a batch, read its input and write its output and its report.  It ends with status 1 if one of
these cannot be done, save for what nobody answers for: settings in bytes that are no UTF-8 or with an
integer that is too long to be read, a batch that is given no place for its answers, a path with a NUL,
and a session with a prompt that is no text.

**Results.**
* `Settings.load_undecodable_iff`, `Settings.load_longInteger_iff`: which settings cannot be decoded, and
  which have an integer that is too long.
* `run_ending_iff`: the endings of runs.
* `run_interrupted`: a run that is interrupted.
-/

namespace Reckoner

namespace Settings

/-- Whatever is wrong with a document, its text was read. -/
theorem ofDocument_ne
    (v : Json) :
    ofDocument v ≠ .error .undecodable ∧
    ∀ digits : Nat, ofDocument v ≠ .error (.longInteger digits) := by
  unfold ofDocument
  cases Contract.settingsSchema.check v with
  | error e =>
      simp
  | ok =>
      cases ofJson v <;> simp

/-- Bytes are refused as undecodable where they hold a fault. -/
theorem ofBytes_undecodable_iff
    (bs : Bytes) :
    ofBytes bs = .error .undecodable ↔ none ∈ Utf8.scan bs := by
  rw [← Utf8.decode?_eq_none_iff]
  unfold ofBytes
  cases Utf8.decode? bs with
  | none =>
      simp
  | some cs =>
      dsimp only
      cases Json.load cs with
      | error f =>
          cases f <;> simp
      | ok v =>
          simp [(ofDocument_ne v).1]

/-- Bytes are refused for an integer where a reader of their text comes to one that is too long. -/
theorem ofBytes_longInteger_iff
    (bs : Bytes)
    (digits : Nat) :
    ofBytes bs = .error (.longInteger digits) ↔
      ∃ cs : List Char, Utf8.decode? bs = some cs ∧ Json.load cs = .error (.longInteger digits) := by
  unfold ofBytes
  cases Utf8.decode? bs with
  | none =>
      simp
  | some cs =>
      dsimp only
      cases hload : Json.load cs with
      | error f =>
          cases f <;> simp [hload]
      | ok v =>
          simp [hload, (ofDocument_ne v).2]

/-- What is refused of the bytes of a file that can be read is refused of the file. -/
theorem load_of_read
    {t : FileTree}
    {path : String}
    {bs : Bytes}
    (h : t.read (Path.simplified path) = .ok bs) :
    load t path = ofBytes bs := by
  unfold load
  dsimp only
  rw [FileTree.reaches_of_read h, h]

/-- Settings fail for their file before it is read, or for its bytes. -/
theorem load_cases
    (t : FileTree)
    (path : String) :
    (∃ e, load t path = .error (.file e)) ∨ load t path = .error (.missing (Path.simplified path)) ∨
    ∃ bs : Bytes, t.read (Path.simplified path) = .ok bs ∧ load t path = ofBytes bs := by
  unfold load
  dsimp only
  split
  · exact .inl ⟨_, rfl⟩
  · exact .inr (.inl rfl)
  · split
    · exact .inl ⟨_, rfl⟩
    · next bs hread =>
        exact .inr (.inr ⟨bs, hread, rfl⟩)

/-- Settings are undecodable where their file can be read and holds a fault. -/
theorem load_undecodable_iff
    (t : FileTree)
    (path : String) :
    load t path = .error .undecodable ↔
      ∃ bs : Bytes, t.read (Path.simplified path) = .ok bs ∧ none ∈ Utf8.scan bs := by
  constructor
  · intro h
    rcases load_cases t path with ⟨e, he⟩ | hmissing | ⟨bs, hread, hbytes⟩
    · rw [he] at h
      cases h
    · rw [hmissing] at h
      cases h
    · exact ⟨bs, hread, (ofBytes_undecodable_iff bs).mp (hbytes ▸ h)⟩
  · rintro ⟨bs, hread, hfault⟩
    rw [load_of_read hread]
    exact (ofBytes_undecodable_iff bs).mpr hfault

/-- Settings have an integer that is too long where their file can be read and its text comes to one. -/
theorem load_longInteger_iff
    (t : FileTree)
    (path : String)
    (digits : Nat) :
    load t path = .error (.longInteger digits) ↔
      ∃ (bs : Bytes) (cs : List Char),
        t.read (Path.simplified path) = .ok bs ∧
        Utf8.decode? bs = some cs ∧
        Json.load cs = .error (.longInteger digits) := by
  constructor
  · intro h
    rcases load_cases t path with ⟨e, he⟩ | hmissing | ⟨bs, hread, hbytes⟩
    · rw [he] at h
      cases h
    · rw [hmissing] at h
      cases h
    · obtain ⟨cs, htext, hinteger⟩ := (ofBytes_longInteger_iff bs digits).mp (hbytes ▸ h)
      exact ⟨bs, cs, hread, htext, hinteger⟩
  · rintro ⟨bs, cs, hread, htext, hinteger⟩
    rw [load_of_read hread]
    exact (ofBytes_longInteger_iff bs digits).mpr ⟨cs, htext, hinteger⟩

end Settings

namespace CommandLine

namespace Arguments

/-- The settings of a run fail with those of the file that is given. -/
theorem settings_eq_error_iff
    {a : Arguments}
    {t : FileTree}
    {f : Settings.LoadFailure} :
    a.settings t = .error f ↔
      ∃ path : String, givenPath a.config = some path ∧ Settings.load t path = .error f := by
  unfold settings
  cases givenPath a.config with
  | none =>
      simp [Except.map]
  | some path =>
      dsimp only
      cases hload : Settings.load t path <;> simp [hload, Except.map]

end Arguments

open Arguments

/-- How a run ends that cannot use a path. -/
def unusable (path : String) : Ending :=
  if Path.HoldsNul path then .interrupted (.file .nulInPath) else .status 1

/-- Whether a run has settings and an input that it can read. -/
structure HasInput (a : Arguments) (t : FileTree) (s : Settings) (inputPath : String)
    (content : Bytes) : Prop where
  settings : a.settings t = .ok s
  input : a.inputFile = some inputPath
  read : t.read inputPath = .ok content

/-- Whether it also has an output that it can write. -/
structure HasOutput (a : Arguments) (t : FileTree) (s : Settings) (inputPath : String)
    (content : Bytes) (outputPath : String) : Prop extends HasInput a t s inputPath content where
  output : a.output.path? s = some outputPath
  write : t.CanWrite outputPath

/-- How a run ends with the files that it finds. -/
inductive Ends (a : Arguments) (t : FileTree) : Ending → Prop
  /-- The settings cannot be had. -/
  | settings
      {path : String} {f : Settings.LoadFailure}
      (hconfig : givenPath a.config = some path)
      (hload : Settings.load t path = .error f)
      (hfault : f ≠ .undecodable)
      (hinteger : ∀ digits : Nat, f ≠ .longInteger digits) :
      Ends a t (.status 1)
  /-- The settings file can be read and holds a fault. -/
  | settingsFault
      {path : String} {bs : Bytes}
      (hconfig : givenPath a.config = some path)
      (hread : t.read (Path.simplified path) = .ok bs)
      (hfault : none ∈ Utf8.scan bs) :
      Ends a t (.interrupted .undecodableSettings)
  /-- The text of the settings file comes to an integer that is too long before any other fault. -/
  | settingsInteger
      {path : String} {bs : Bytes} {cs : List Char} {digits : Nat}
      (hconfig : givenPath a.config = some path)
      (hread : t.read (Path.simplified path) = .ok bs)
      (htext : Utf8.decode? bs = some cs)
      (hinteger : Json.load cs = .error (.longInteger digits))
      (hdigits : longestInteger < digits) :
      Ends a t (.interrupted (.longInteger digits))
  | session
      {s : Settings}
      (hsettings : a.settings t = .ok s)
      (hinput : a.inputFile = none)
      (hprompt : ¬ s.prompt.HasHalf) :
      Ends a t (.status 0)
  /-- The prompt cannot be shown. -/
  | prompt
      {s : Settings}
      (hsettings : a.settings t = .ok s)
      (hinput : a.inputFile = none)
      (hprompt : s.prompt.HasHalf) :
      Ends a t (.interrupted .unwritablePrompt)
  /-- The input cannot be read. -/
  | input
      {s : Settings} {inputPath : String}
      (hsettings : a.settings t = .ok s)
      (hinput : a.inputFile = some inputPath)
      (hread : ∀ content : Bytes, t.read inputPath ≠ .ok content) :
      Ends a t (unusable inputPath)
  /-- There is no place for the output. -/
  | nowhere
      {s : Settings} {inputPath : String} {content : Bytes}
      (hinput : HasInput a t s inputPath content)
      (houtput : a.output = .nowhere) :
      Ends a t (.interrupted (.file .noPath))
  /-- The output cannot be written. -/
  | output
      {s : Settings} {inputPath outputPath : String} {content : Bytes}
      (hinput : HasInput a t s inputPath content)
      (houtput : a.output.path? s = some outputPath)
      (hwrite : ¬t.CanWrite outputPath) :
      Ends a t (unusable outputPath)
  /-- The report cannot be written. -/
  | report
      {s : Settings} {inputPath outputPath reportPath : String} {content : Bytes}
      (houtput : HasOutput a t s inputPath content outputPath)
      (hreport : givenPath a.report = some reportPath)
      (hwrite : ¬t.CanWrite reportPath) :
      Ends a t (unusable reportPath)
  | batch
      {s : Settings} {inputPath outputPath : String} {content : Bytes}
      (houtput : HasOutput a t s inputPath content outputPath)
      (hreport : ∀ reportPath : String, givenPath a.report = some reportPath →
        t.CanWrite reportPath) :
      Ends a t (.status 0)

section Batch

variable {a : Arguments}
variable {t : FileTree}
variable {s : Settings}
variable {inputPath outputPath path : String}
variable {content : Bytes}
variable {e : FileError}

/-- A failure of a file ends the run as its path does. -/
theorem ending_stoppedByFile
    (hnul : Path.HoldsNul path → e = .nulInPath)
    (habout : ¬Path.HoldsNul path → e.isAboutFiles = true)
    (log : List LogEntry)
    (files : FileTree) :
    (stoppedByFile e log files).ending = unusable path := by
  unfold stoppedByFile unusable
  by_cases hpath : Path.HoldsNul path
  · rw [hnul hpath, if_pos hpath]
    rfl
  · rw [if_pos (habout hpath), if_neg hpath]

theorem ending_stoppedByFile_of_read
    (h : t.read path = .error e)
    (log : List LogEntry)
    (files : FileTree) :
    (stoppedByFile e log files).ending = unusable path := by
  refine ending_stoppedByFile (fun hnul => ?_) (FileTree.isAboutFiles_of_read · h) log files
  rw [FileTree.read_of_nul hnul] at h
  exact (Except.error.inj h).symm

theorem ending_stoppedByFile_of_write
    (h : t.write path content = .error e)
    (log : List LogEntry)
    (files : FileTree) :
    (stoppedByFile e log files).ending = unusable path := by
  refine ending_stoppedByFile (fun hnul => ?_) (FileTree.isAboutFiles_of_write · h) log files
  rw [FileTree.write_of_nul hnul] at h
  exact (Except.error.inj h).symm

/-- A batch that fails stops there. -/
theorem ending_batch_of_error
    (h : (Batch.processFile t inputPath a.output s).result = .error e) :
    ∃ (log : List LogEntry) (files : FileTree),
      (batch a s t inputPath).ending = (stoppedByFile e log files).ending := by
  unfold batch
  dsimp only
  rw [h]
  exact ⟨_, _, rfl⟩

/-- A batch ends well that can write its output, and its report if there is one. -/
theorem ending_batch
    (hread : t.read inputPath = .ok content)
    (houtput : a.output.path? s = some outputPath)
    (hwrite : t.CanWrite outputPath)
    (hreport : ∀ reportPath : String, givenPath a.report = some reportPath →
      t.CanWrite reportPath) :
    (batch a s t inputPath).ending = .status 0 := by
  obtain ⟨hresult, hfiles⟩ := Batch.processFile_eq_ok hread houtput hwrite
  unfold batch
  dsimp only
  rw [hresult]
  dsimp only
  cases hgiven : givenPath a.report with
  | none =>
      rfl
  | some reportPath =>
      have hcan := (FileTree.canWrite_of_write hfiles reportPath).mpr (hreport reportPath hgiven)
      obtain ⟨files, hwritten⟩ := Batch.writeReport_of_canWrite hcan
      dsimp only
      rw [hwritten]

/-- A report that cannot be written stops a batch. -/
theorem ending_batch_of_report
    (hread : t.read inputPath = .ok content)
    (houtput : a.output.path? s = some outputPath)
    (hwrite : t.CanWrite outputPath)
    (hgiven : givenPath a.report = some path)
    (hreport : ¬t.CanWrite path) :
    (batch a s t inputPath).ending = unusable path := by
  obtain ⟨hresult, hfiles⟩ := Batch.processFile_eq_ok hread houtput hwrite
  have hcan := mt (FileTree.canWrite_of_write hfiles path).mp hreport
  obtain ⟨g, text, hwritten, hfailed⟩ := Batch.writeReport_of_not_canWrite hcan
  unfold batch
  dsimp only
  rw [hresult]
  dsimp only
  rw [hgiven]
  dsimp only
  rw [hfailed]
  exact ending_stoppedByFile_of_write hwritten _ _

end Batch

variable {a : Arguments}
variable {t : FileTree}

/-- A run with settings and an input file is a batch; the settings choose what of its log is kept. -/
theorem perform_eq_batch
    {s : Settings} {inputPath : String}
    (hsettings : a.settings t = .ok s)
    (hinput : a.inputFile = some inputPath)
    (input : List Char) :
    perform a t input =
      { batch a s t inputPath with
        log := LogEntry.atLeast s.logLevel (batch a s t inputPath).log } := by
  unfold perform
  rw [hsettings]
  dsimp only
  unfold performWith
  rw [hinput]

/-- So it ends as the batch does. -/
theorem ending_perform
    {s : Settings} {inputPath : String}
    (hsettings : a.settings t = .ok s)
    (hinput : a.inputFile = some inputPath)
    (input : List Char) :
    (perform a t input).ending = (batch a s t inputPath).ending := by
  rw [perform_eq_batch hsettings hinput]

/-- How a run ends that has no settings for a reason. -/
def refusal : Settings.LoadFailure → Ending
  | .undecodable => .interrupted .undecodableSettings
  | .longInteger digits => .interrupted (.longInteger digits)
  | _ => .status 1

/-- Save for two reasons, it ends with status 1. -/
theorem refusal_of_answered
    {f : Settings.LoadFailure}
    (hfault : f ≠ .undecodable)
    (hinteger : ∀ digits : Nat, f ≠ .longInteger digits) :
    refusal f = .status 1 := by
  cases f with
  | undecodable =>
      exact absurd rfl hfault
  | longInteger digits =>
      exact absurd rfl (hinteger digits)
  | missing | file | notJson | contract | settings =>
      rfl

/-- A run without settings ends as the reason has it. -/
theorem ending_perform_of_error
    {f : Settings.LoadFailure}
    (h : a.settings t = .error f)
    (input : List Char) :
    (perform a t input).ending = refusal f := by
  unfold perform
  rw [h]
  cases f <;> rfl

/-- A session ends well if its prompt can be shown. -/
theorem ending_session
    {s : Settings}
    (h : ¬ s.prompt.HasHalf)
    (t : FileTree)
    (input : List Char) :
    (session s t input).ending = .status 0 := by
  have houtput : ¬ (Session.run s input).output.HasHalf := by
    rwa [Session.hasHalf_run]
  obtain ⟨output, htext⟩ := (CodeString.eq_ofString_or_hasHalf _).resolve_right houtput
  unfold session
  dsimp only
  rw [htext, CodeString.toString?_ofString]

/-- A prompt that cannot be shown stops it. -/
theorem ending_session_of_hasHalf
    {s : Settings}
    (h : s.prompt.HasHalf)
    (t : FileTree)
    (input : List Char) :
    (session s t input).ending = .interrupted .unwritablePrompt := by
  unfold session
  dsimp only
  rw [CodeString.toString?_of_hasHalf ((Session.hasHalf_run s input).mpr h)]

/-- A run with settings and without an input file is a session. -/
theorem ending_perform_of_session
    {s : Settings}
    (hsettings : a.settings t = .ok s)
    (hinput : a.inputFile = none)
    (input : List Char) :
    (perform a t input).ending = (session s t input).ending := by
  unfold perform
  rw [hsettings]
  dsimp only
  unfold performWith
  rw [hinput]

/-- A run ends as its files have it. -/
theorem Ends.ending_perform
    {e : Ending}
    (h : Ends a t e)
    (input : List Char) :
    (perform a t input).ending = e := by
  cases h with
  | settings hconfig hload hfault hinteger =>
      rw [ending_perform_of_error (settings_eq_error_iff.mpr ⟨_, hconfig, hload⟩)]
      exact refusal_of_answered hfault hinteger
  | settingsFault hconfig hread hfault =>
      have hload := (Settings.load_undecodable_iff t _).mpr ⟨_, hread, hfault⟩
      rw [ending_perform_of_error (settings_eq_error_iff.mpr ⟨_, hconfig, hload⟩), refusal]
  | settingsInteger hconfig hread htext hinteger _ =>
      have hload := (Settings.load_longInteger_iff t _ _).mpr ⟨_, _, hread, htext, hinteger⟩
      rw [ending_perform_of_error (settings_eq_error_iff.mpr ⟨_, hconfig, hload⟩), refusal]
  | session hsettings hinput hprompt =>
      rw [ending_perform_of_session hsettings hinput]
      exact ending_session hprompt t input
  | prompt hsettings hinput hprompt =>
      rw [ending_perform_of_session hsettings hinput]
      exact ending_session_of_hasHalf hprompt t input
  | input hsettings hinput hread =>
      rw [CommandLine.ending_perform hsettings hinput]
      cases hfile : t.read _ with
      | error g =>
          obtain ⟨log, files, hending⟩ :=
            ending_batch_of_error (Batch.processFile_of_read hfile).1
          rw [hending]
          exact ending_stoppedByFile_of_read hfile log files
      | ok content =>
          exact absurd hfile (hread content)
  | @nowhere s _ _ hinput houtput =>
      have hpath := (Batch.Destination.path?_eq_none_iff s a.output).mpr houtput
      obtain ⟨log, files, hending⟩ :=
        ending_batch_of_error (Batch.processFile_of_nowhere hinput.read hpath).1
      rw [CommandLine.ending_perform hinput.settings hinput.input, hending]
      rfl
  | output hinput houtput hwrite =>
      obtain ⟨g, hwritten⟩ := FileTree.exists_error_of_not_canWrite hwrite _
      obtain ⟨log, files, hending⟩ :=
        ending_batch_of_error (Batch.processFile_of_write hinput.read houtput hwritten).1
      rw [CommandLine.ending_perform hinput.settings hinput.input, hending]
      exact ending_stoppedByFile_of_write hwritten log files
  | report houtput hreport hwrite =>
      rw [CommandLine.ending_perform houtput.settings houtput.input]
      exact ending_batch_of_report houtput.read houtput.output houtput.write hreport hwrite
  | batch houtput hreport =>
      rw [CommandLine.ending_perform houtput.settings houtput.input]
      exact ending_batch houtput.read houtput.output houtput.write hreport

/-- With any files there is an ending. -/
theorem exists_ends
    (a : Arguments)
    (t : FileTree) :
    ∃ e : Ending, Ends a t e := by
  cases hsettings : a.settings t with
  | error f =>
      obtain ⟨path, hconfig, hload⟩ := settings_eq_error_iff.mp hsettings
      by_cases hfault : f = .undecodable
      · subst hfault
        obtain ⟨bs, hread, hfault⟩ := (Settings.load_undecodable_iff t path).mp hload
        exact ⟨_, .settingsFault hconfig hread hfault⟩
      · by_cases hinteger : ∃ digits : Nat, f = .longInteger digits
        · obtain ⟨digits, rfl⟩ := hinteger
          obtain ⟨bs, cs, hread, htext, hlong⟩ :=
            (Settings.load_longInteger_iff t path digits).mp hload
          exact ⟨_, .settingsInteger hconfig hread htext hlong (Json.longestInteger_lt_of_load hlong)⟩
        · exact ⟨_, .settings hconfig hload hfault (not_exists.mp hinteger)⟩
  | ok s =>
      cases hinput : a.inputFile with
      | none =>
          by_cases hprompt : s.prompt.HasHalf
          · exact ⟨_, .prompt hsettings hinput hprompt⟩
          · exact ⟨_, .session hsettings hinput hprompt⟩
      | some inputPath =>
          cases hread : t.read inputPath with
          | error e =>
              exact ⟨_, .input hsettings hinput fun content hcontent => by
                rw [hread] at hcontent
                cases hcontent⟩
          | ok content =>
              have hhas : HasInput a t s inputPath content := ⟨hsettings, hinput, hread⟩
              cases hpath : a.output.path? s with
              | none =>
                  exact ⟨_, .nowhere hhas ((Batch.Destination.path?_eq_none_iff s _).mp hpath)⟩
              | some outputPath =>
                  by_cases hwrite : t.CanWrite outputPath
                  · by_cases hreport : ∀ reportPath : String,
                      givenPath a.report = some reportPath → t.CanWrite reportPath
                    · exact ⟨_, .batch ⟨hhas, hpath, hwrite⟩ hreport⟩
                    · simp only [not_forall] at hreport
                      obtain ⟨reportPath, hgiven, hno⟩ := hreport
                      exact ⟨_, .report ⟨hhas, hpath, hwrite⟩ hgiven hno⟩
                  · exact ⟨_, .output hhas hpath hwrite⟩

end CommandLine
end Reckoner
