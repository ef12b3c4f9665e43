import Reckoner.Proofs.Batch.LineAnswers
import Reckoner.Proofs.Contract.SchemaDemands
import Reckoner.Proofs.Files.Access

/-!
# The contract of reports

A report meets its contract exactly when its lines are numbered from one on and each of them has either
a result or an error.  The lines of a batch are and have, so no report of a batch is refused.

**Results.**
* `Report.check_eq_ok_iff`: which reports meet their contract.
* `check_lineResults`: those of a batch do.
* `writeReport_of_canWrite`, `writeReport_of_not_canWrite`: so they are written where their file can be.
-/

namespace Reckoner

namespace Batch

open Contract

/-- A line violates nothing exactly when its number is positive and it has either a result or an
error. -/
theorem LineResult.violations_eq_nil_iff
    (r : LineResult) :
    lineSchema.violations r.toJson = [] ↔ 1 ≤ r.lineNumber ∧ r.HasOutcome := by
  obtain ⟨lineNumber, expression, result, error⟩ := r
  cases result <;> cases error <;>
    simp [Schema.violations, lineSchema, schemaViolations, keywordViolations, memberViolations,
      countMet, Schema.memberNames, Keyword.memberNames, toJson, Json.ofOption, List.lookup_cons,
      Kind.covers, isBelow, HasOutcome]

/-- A report meets its contract exactly when its lines are numbered from one on and each of them has
either a result or an error. -/
theorem Report.check_eq_ok_iff
    (r : Report) :
    r.check = .ok () ↔ ∀ line ∈ r.results, 1 ≤ line.lineNumber ∧ line.HasOutcome := by
  have hlines :
      reportSchema.violations r.toJson = [] ↔
        ∀ (line : Json) (i : Nat), (line, i) ∈ (r.results.map LineResult.toJson).zipIdx →
          lineSchema.violations line = [] := by
    simp [Schema.violations, reportSchema, dialect, schemaViolations, keywordViolations,
      memberViolations, Schema.memberNames, Keyword.memberNames, toJson, List.lookup_cons, Kind.covers,
      isBelow]
  rw [check, Schema.check_eq_ok_iff, hlines, forall_zipIdx_iff, List.forall_mem_map]
  exact forall₂_congr fun line _ => line.violations_eq_nil_iff

/-- The report of a batch meets its contract. -/
theorem check_lineResults
    (inputPath outputPath : String)
    (s : Settings)
    (lines : List (List Char)) :
    Report.check ⟨inputPath, outputPath, lineResults s lines⟩ = .ok () := by
  rw [Report.check_eq_ok_iff]
  intro line hline
  refine ⟨?_, (isAnswer_of_mem_lineResults hline).hasOutcome⟩
  have hnumber : line.lineNumber ∈ (lineResults s lines).map LineResult.lineNumber :=
    List.mem_map_of_mem hline
  rw [lineNumbers_lineResults] at hnumber
  obtain ⟨i, -, hi⟩ := List.mem_map.mp hnumber
  rw [← hi]
  omega

section Writing

variable {t : FileTree}
variable {inputPath outputPath path : String}
variable {s : Settings}
variable {lines : List (List Char)}

/-- The report of a batch is written if its file can be. -/
theorem writeReport_of_canWrite
    (h : t.CanWrite path) :
    ∃ files : FileTree,
      writeReport t ⟨inputPath, outputPath, lineResults s lines⟩ path = .ok files := by
  obtain ⟨files, hwritten⟩ := h.exists_write _
  refine ⟨files, ?_⟩
  unfold writeReport
  rw [check_lineResults]
  dsimp only
  rw [hwritten]

/-- It is refused for nothing but its file. -/
theorem writeReport_of_not_canWrite
    (h : ¬t.CanWrite path) :
    ∃ (e : FileError) (content : Bytes),
      t.write path content = .error e ∧
      writeReport t ⟨inputPath, outputPath, lineResults s lines⟩ path = .error (.file e) := by
  obtain ⟨e, hwritten⟩ := FileTree.exists_error_of_not_canWrite h _
  refine ⟨e, _, hwritten, ?_⟩
  unfold writeReport
  rw [check_lineResults]
  dsimp only
  rw [hwritten]

end Writing

end Batch
end Reckoner
