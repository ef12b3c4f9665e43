import Reckoner.Proofs.Contract.ReportContract

/-!
# Documents that are reports

The contract of reports is read here as a description of documents: which members a report and each of
its lines have, and what they hold.  That a line has one outcome is asked for twice over, by the kinds
of its result and its error and by the choice between two demands that look only at members that are
there; together they leave a text beside a null.

A report is checked before its file is opened.  To say so, it is written effect by effect, where opening
a file empties it and comes before the text.

**Results.**
* `lineSchema_accepts_iff`, `reportSchema_accepts_iff`: the documents that the contract lets through.
* `writeReportInSteps_eq`: writing effect by effect comes to the same, and a failure changes no file.
* `reportContract_decides`: the contract decides which reports are written, before their file is
  touched.
-/

namespace Reckoner

namespace Contract

/-- The names of what a report says of a line. -/
def lineNames : List String :=
  ["line_number", "expression", "result", "error"]

/-- Exactly one of the result and the error is a text, and the other is null. -/
def HasOneOutcome
    (members : List (CodeString × Json)) : Prop :=
  (∃ s : CodeString, members.lookup ("result" : CodeString) = some (.string s) ∧ members.lookup ("error" : CodeString) = some .null) ∨
  (∃ s : CodeString, members.lookup ("result" : CodeString) = some .null ∧ members.lookup ("error" : CodeString) = some (.string s))

/-- What a report says of a line: its number, its expression and its outcome. -/
structure IsLineRecord
    (members : List (CodeString × Json)) : Prop where
  names :
    ∀ name : CodeString,
      name ∈ members.map Prod.fst ↔ ∃ known ∈ lineNames, name = .ofString known
  lineNumber : ∃ v : Json, members.lookup ("line_number" : CodeString) = some v ∧ ∃ n : Int, v.IsWhole n ∧ 1 ≤ n
  expression : ∃ v : Json, members.lookup ("expression" : CodeString) = some v ∧ ∃ s : CodeString, v = .string s
  outcome : HasOneOutcome members

/-- The names of what a report says. -/
def reportNames : List String :=
  ["input_path", "output_path", "total", "succeeded", "failed", "results"]

/-- What a report says: two paths, three counts and its lines. -/
structure IsReportRecord
    (members : List (CodeString × Json)) : Prop where
  names :
    ∀ name : CodeString,
      name ∈ members.map Prod.fst ↔ ∃ known ∈ reportNames, name = .ofString known
  paths :
    ∀ name ∈ ["input_path", "output_path"],
      ∃ v : Json, members.lookup (name : CodeString) = some v ∧ ∃ s : CodeString, v = .string s
  counts :
    ∀ name ∈ ["total", "succeeded", "failed"],
      ∃ v : Json, members.lookup (name : CodeString) = some v ∧ ∃ n : Int, v.IsWhole n ∧ 0 ≤ n
  results :
    ∃ items : List Json,
      members.lookup ("results" : CodeString) = some (.array items) ∧
      ∀ item ∈ items,
        ∃ line : List (CodeString × Json), item = .object line ∧ IsLineRecord line

/-- The fields of a line, without what the result and the error have to do with each other. -/
def lineFields : List (String × Schema) := [
  ("line_number", [.kinds [.integer], .minimum 1]),
  ("expression", [.kinds [.string]]),
  ("result", [.kinds [.string, .null]]),
  ("error", [.kinds [.string, .null]])]

/-- A result or an error of some kinds. -/
def outcomeSchema
    (result error : Kind) : Schema :=
  [.members [("result", [.kinds [result]]), ("error", [.kinds [error]])]]

/-- The fields of a report. -/
def reportFields : List (String × Schema) := [
  ("input_path", [.kinds [.string]]),
  ("output_path", [.kinds [.string]]),
  ("total", [.kinds [.integer], .minimum 0]),
  ("succeeded", [.kinds [.integer], .minimum 0]),
  ("failed", [.kinds [.integer], .minimum 0]),
  ("results", [.kinds [.array], .items lineSchema])]

theorem lineSchema_eq :
    lineSchema =
      record lineFields ++
        [.exactlyOne [outcomeSchema .string .null, outcomeSchema .null .string]] := by
  rfl

theorem reportSchema_eq :
    reportSchema =
      [dialect, .remark "$id" "batch_report.json", .remark "title" "Batch evaluation report"] ++
        record reportFields := by
  rfl

section Lines

variable {members : List (CodeString × Json)}

/-- Where a result and an error are there, they meet the demands of the two kinds of outcome by their
values. -/
theorem outcomeSchema_accepts_iff
    {result error : Json}
    (hresult : members.lookup ("result" : CodeString) = some result)
    (herror : members.lookup ("error" : CodeString) = some error)
    (k l : Kind) :
    (outcomeSchema k l).accepts (.object members) = true ↔
      Schema.accepts [.kinds [k]] result = true ∧ Schema.accepts [.kinds [l]] error = true := by
  simp [outcomeSchema, Schema.accepts_iff _ (.object members), Schema.violations,
    schemaViolations_eq_nil_iff, keywordViolations, memberViolations_eq_nil_iff, hresult, herror]

/-- A text or null as the result and a text or null as the error meet exactly one of the two demands
if they are one outcome. -/
theorem hasOneOutcome_iff
    {result error : Json}
    (hresult : members.lookup ("result" : CodeString) = some result)
    (herror : members.lookup ("error" : CodeString) = some error)
    (hresult' : (∃ s : CodeString, result = .string s) ∨ result = .null)
    (herror' : (∃ s : CodeString, error = .string s) ∨ error = .null) :
    HasOneOutcome members ↔
      ¬ ((outcomeSchema .string .null).accepts (.object members) = true ↔
        (outcomeSchema .null .string).accepts (.object members) = true) := by
  simp only [HasOneOutcome, outcomeSchema_accepts_iff hresult herror, accepts_text_iff,
    accepts_null_iff, hresult, herror]
  rcases hresult' with ⟨s, rfl⟩ | rfl <;> rcases herror' with ⟨e, rfl⟩ | rfl <;> simp

/-- One outcome is a text or null as the result and a text or null as the error. -/
theorem HasOneOutcome.values
    (h : HasOneOutcome members) :
    ∃ result error : Json,
      (members.lookup ("result" : CodeString) = some result ∧ ((∃ s : CodeString, result = .string s) ∨ result = .null)) ∧
      (members.lookup ("error" : CodeString) = some error ∧ ((∃ s : CodeString, error = .string s) ∨ error = .null)) := by
  rcases h with ⟨s, hresult, herror⟩ | ⟨s, hresult, herror⟩
  · exact ⟨_, _, ⟨hresult, .inl ⟨s, rfl⟩⟩, herror, .inr rfl⟩
  · exact ⟨_, _, ⟨hresult, .inr rfl⟩, herror, .inl ⟨s, rfl⟩⟩

/-- What a report says of a line is a record of its fields that meets exactly one of the two demands on
outcomes. -/
theorem isLineRecord_iff :
    IsLineRecord members ↔
      IsRecord lineFields members ∧
        ¬ ((outcomeSchema .string .null).accepts (.object members) = true ↔
          (outcomeSchema .null .string).accepts (.object members) = true) := by
  constructor
  · rintro ⟨hnames, hnumber, hexpression, houtcome⟩
    obtain ⟨result, error, hresult, herror⟩ := houtcome.values
    refine ⟨⟨hnames, ?_⟩, (hasOneOutcome_iff hresult.1 herror.1 hresult.2 herror.2).mp houtcome⟩
    simp only [lineFields, List.forall_mem_cons, accepts_least_iff, accepts_text_iff,
      accepts_textOrNull_iff]
    exact ⟨hnumber, hexpression, ⟨result, hresult⟩, ⟨error, herror⟩, by simp⟩
  · rintro ⟨⟨hnames, hvalues⟩, houtcome⟩
    simp only [lineFields, List.forall_mem_cons, accepts_least_iff, accepts_text_iff,
      accepts_textOrNull_iff] at hvalues
    obtain ⟨hnumber, hexpression, ⟨result, hresult⟩, ⟨error, herror⟩, -⟩ := hvalues
    exact ⟨hnames, hnumber, hexpression,
      (hasOneOutcome_iff hresult.1 herror.1 hresult.2 herror.2).mpr houtcome⟩

end Lines

/-- A value meets the contract of a line exactly if it is what a report says of one. -/
theorem lineSchema_accepts_iff
    (v : Json) :
    lineSchema.accepts v = true ↔
      ∃ members : List (CodeString × Json), v = .object members ∧ IsLineRecord members := by
  have hnames : Schema.memberNames lineSchema = lineFields.map Prod.fst := by
    rfl
  rw [Schema.accepts_iff, Schema.violations, hnames, schemaViolations_eq_nil_iff, lineSchema_eq,
    List.forall_mem_append, record_eq_nil_iff]
  simp only [List.forall_mem_singleton, exactlyOne_eq_nil_iff]
  constructor
  · rintro ⟨⟨members, rfl, hrecord⟩, houtcome⟩
    exact ⟨members, rfl, isLineRecord_iff.mpr ⟨hrecord, houtcome⟩⟩
  · rintro ⟨members, rfl, hline⟩
    obtain ⟨hrecord, houtcome⟩ := isLineRecord_iff.mp hline
    exact ⟨⟨members, rfl, hrecord⟩, houtcome⟩

/-- A line number may have a fraction of zero, but it is no truth value. -/
example :
    lineSchema.accepts (.object [("line_number", .number (.finite false 1 0)),
      ("expression", .string "1"), ("result", .string "1"), ("error", .null)]) = true ∧
    lineSchema.accepts (.object [("line_number", .boolean true),
      ("expression", .string "1"), ("result", .string "1"), ("error", .null)]) = false := by
  decide +kernel

/-- What a report says is a record of its fields. -/
theorem isReportRecord_iff
    {members : List (CodeString × Json)} :
    IsReportRecord members ↔ IsRecord reportFields members := by
  constructor
  · rintro ⟨hnames, hpaths, hcounts, items, hresults, hlines⟩
    refine ⟨hnames, ?_⟩
    simp only [reportFields, List.forall_mem_cons, accepts_least_iff, accepts_text_iff,
      accepts_array_iff, lineSchema_accepts_iff] at hpaths hcounts ⊢
    exact ⟨hpaths.1, hpaths.2.1, hcounts.1, hcounts.2.1, hcounts.2.2.1,
      ⟨_, hresults, items, rfl, hlines⟩, by simp⟩
  · rintro ⟨hnames, hvalues⟩
    simp only [reportFields, List.forall_mem_cons, accepts_least_iff, accepts_text_iff,
      accepts_array_iff, lineSchema_accepts_iff] at hvalues
    obtain ⟨hinput, houtput, htotal, hsucceeded, hfailed, ⟨_, hresults, items, rfl, hlines⟩, -⟩ :=
      hvalues
    refine ⟨hnames, ?_, ?_, items, hresults, hlines⟩
    · simp only [List.forall_mem_cons]
      exact ⟨hinput, houtput, by simp⟩
    · simp only [List.forall_mem_cons]
      exact ⟨htotal, hsucceeded, hfailed, by simp⟩

/-- A value meets the contract of reports exactly if it is what a report says. -/
theorem reportSchema_accepts_iff
    (v : Json) :
    reportSchema.accepts v = true ↔
      ∃ members : List (CodeString × Json), v = .object members ∧ IsReportRecord members := by
  have hnames : Schema.memberNames reportSchema = reportFields.map Prod.fst := by
    rfl
  have hremarks :
      ∀ k ∈ [dialect, .remark "$id" "batch_report.json", .remark "title" "Batch evaluation report"],
        keywordViolations (reportFields.map Prod.fst) k v = [] := by
    simp [dialect, keywordViolations]
  rw [Schema.accepts_iff, Schema.violations, hnames, schemaViolations_eq_nil_iff, reportSchema_eq,
    List.forall_mem_append, record_eq_nil_iff, and_iff_right hremarks]
  simp only [isReportRecord_iff]

end Contract

namespace Batch

open Contract

/-- Writing a report effect by effect: the check comes first, then the file is opened, which empties
it, and then the text is written. -/
def writeReportInSteps
    (t : FileTree)
    (r : Report)
    (path : String) : Step (Except ReportFailure Unit) :=
  match r.check with
  | .error v => ⟨.error (.contract v), t, []⟩
  | .ok () =>
      match t.write path [] with
      | .error e => ⟨.error (.file e), t, []⟩
      | .ok opened =>
          match opened.write path (Utf8.encode r.text.toList) with
          | .error e => ⟨.error (.file e), opened, []⟩
          | .ok files => ⟨.ok (), files, []⟩

section Writing

variable (t : FileTree)
variable (r : Report)
variable (path : String)

/-- What becomes of a report effect by effect is what becomes of it at once, and a failure has left the
files as they were. -/
theorem writeReportInSteps_eq :
    writeReportInSteps t r path =
      match writeReport t r path with
      | .error f => ⟨.error f, t, []⟩
      | .ok files => ⟨.ok (), files, []⟩ := by
  unfold writeReportInSteps writeReport
  cases r.check with
  | error v =>
      rfl
  | ok =>
      dsimp only
      cases hopen : t.write path [] with
      | error e =>
          rw [FileTree.write_eq_error_of_write hopen]
      | ok opened =>
          -- the file is open, so its text can be written
          obtain ⟨files, hfiles, hwhole⟩ := FileTree.write_of_write hopen (Utf8.encode r.text.toList)
          rw [hwhole]
          dsimp only
          rw [hfiles]

theorem result_writeReportInSteps :
    (writeReportInSteps t r path).result = (writeReport t r path).map fun _ => () := by
  rw [writeReportInSteps_eq]
  cases writeReport t r path <;> rfl

theorem files_writeReportInSteps
    {f : ReportFailure}
    (h : (writeReportInSteps t r path).result = .error f) :
    (writeReportInSteps t r path).files = t := by
  rw [writeReportInSteps_eq] at h ⊢
  cases hwrite : writeReport t r path with
  | error f =>
      rfl
  | ok files =>
      rw [hwrite] at h
      cases h

/-- A report is refused for its contract exactly if it does not meet it. -/
theorem writeReport_contract_iff :
    (∃ v, writeReport t r path = .error (.contract v)) ↔ r.check ≠ .ok () := by
  unfold writeReport
  cases r.check with
  | error v =>
      simp
  | ok =>
      dsimp only
      cases t.write path (Utf8.encode r.text.toList) <;> simp

end Writing

/-- The contract of reports lets through the documents it describes and no others.  So it lets through
the reports whose lines are numbered from one on and have one outcome each, and another report is
refused before its file is touched. -/
theorem reportContract_decides :
    (∀ v : Json,
      reportSchema.accepts v = true ↔
        ∃ members : List (CodeString × Json), v = .object members ∧ IsReportRecord members) ∧
    ∀ (t : FileTree) (r : Report) (path : String),
      (reportSchema.accepts r.toJson = true ↔
        ∀ line ∈ r.results, 1 ≤ line.lineNumber ∧ line.HasOutcome) ∧
      ((∃ v, (writeReportInSteps t r path).result = .error (.contract v)) ↔
        ¬ ∀ line ∈ r.results, 1 ≤ line.lineNumber ∧ line.HasOutcome) ∧
      ((¬ ∀ line ∈ r.results, 1 ≤ line.lineNumber ∧ line.HasOutcome) →
        (writeReportInSteps t r path).files = t) ∧
      (writeReportInSteps t r path).result = (writeReport t r path).map fun _ => () := by
  refine ⟨reportSchema_accepts_iff, ?_⟩
  intro t r path
  have hrefused :
      (∃ v, (writeReportInSteps t r path).result = .error (.contract v)) ↔
        ¬ ∀ line ∈ r.results, 1 ≤ line.lineNumber ∧ line.HasOutcome := by
    rw [← r.check_eq_ok_iff, ← Ne, ← writeReport_contract_iff t r path, result_writeReportInSteps]
    cases writeReport t r path <;> simp [Except.map]
  refine ⟨?_, hrefused, ?_, result_writeReportInSteps t r path⟩
  · rw [Schema.accepts_iff, ← Schema.check_eq_ok_iff]
    exact r.check_eq_ok_iff
  · intro hlines
    obtain ⟨v, hv⟩ := hrefused.mpr hlines
    exact files_writeReportInSteps t r path hv

end Batch
end Reckoner
