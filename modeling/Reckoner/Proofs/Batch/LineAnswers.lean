import Reckoner.Batch.Run
import Reckoner.Proofs.Expression.IgnoredCharacters
import Reckoner.Proofs.Expression.Wording

/-!
# Answers to lines

A line is answered with its result or with its error, never with both and never with neither, and what
it is answered with stands on one line.  A result is written as a number, so it does not start as the
mark of an error does, and the answer alone tells which of the two it is.

**Results.**
* `result_answerLine`: the answer to a line in terms of its calculation, blanks around it or not.
* `isAnswer_answerLine`: every line is answered.
* `LineResult.IsAnswer.outcomeOf_row`: result and error are had back from the answer.
* `lineResults_eq_mapIdx`: several lines are answered one by one, and numbered.
-/

namespace Reckoner

namespace Batch

namespace LineResult

/-- What becomes of a line whose calculation has a result or fails. -/
def ofCalculation (lineNumber : Int) (line : List Char) : Except Failure String → LineResult
  | .ok result => ⟨lineNumber, String.ofList (Text.strip line), some result, none⟩
  | .error f => ⟨lineNumber, String.ofList (Text.strip line), none, some f.message⟩

@[simp] theorem lineNumber_ofCalculation
    (lineNumber : Int)
    (line : List Char)
    (r : Except Failure String) :
    (ofCalculation lineNumber line r).lineNumber = lineNumber := by
  cases r <;> rfl

@[simp] theorem expression_ofCalculation
    (lineNumber : Int)
    (line : List Char)
    (r : Except Failure String) :
    (ofCalculation lineNumber line r).expression = String.ofList (Text.strip line) := by
  cases r <;> rfl

/-- Whether there is either a result or an error. -/
def HasOutcome (r : LineResult) : Prop :=
  (r.result.isSome = true ∧ r.error = none) ∨ (r.result = none ∧ r.error.isSome = true)

/-- Whether a line is answered as a calculation answers: with a number, or with an error on one
line. -/
inductive IsAnswer : LineResult → Prop
  | result
      (lineNumber : Int) (expression : String)
      {text : String}
      (htext : IsNumberText text.toList) :
      IsAnswer ⟨lineNumber, expression, some text, none⟩
  | error
      (lineNumber : Int) (expression : String)
      {message : String}
      (hmessage : Text.OnOneLine message.toList) :
      IsAnswer ⟨lineNumber, expression, none, some message⟩

/-- The characters of the answer to a line. -/
def row (r : LineResult) : List Char :=
  (r.rendered.getD "").toList

/-- The mark before an error. -/
def errorMark : List Char := "Err: ".toList

/-- The result and the error that an answer tells of. -/
def outcomeOf (row : List Char) : Option String × Option String :=
  if errorMark <+: row then (none, some (String.ofList (row.drop errorMark.length)))
  else (some (String.ofList row), none)

namespace IsAnswer

variable {r : LineResult}

theorem hasOutcome
    (h : r.IsAnswer) :
    r.HasOutcome := by
  cases h with
  | result =>
      exact .inl ⟨rfl, rfl⟩
  | error =>
      exact .inr ⟨rfl, rfl⟩

/-- The answer is there. -/
theorem rendered_eq
    (h : r.IsAnswer) :
    r.rendered = some (String.ofList r.row) := by
  obtain ⟨text, htext⟩ : ∃ text : String, r.rendered = some text := by
    cases h with
    | result =>
        exact ⟨_, rfl⟩
    | error =>
        exact ⟨_, rfl⟩
  rw [row, htext, Option.getD_some, String.ofList_toList]

/-- It stands on one line. -/
theorem onOneLine_row
    (h : r.IsAnswer) :
    Text.OnOneLine r.row := by
  cases h with
  | result _ _ htext =>
      exact htext.onOneLine
  | error _ _ hmessage =>
      simp only [row, rendered, Option.getD_some, String.toList_append, Text.onOneLine_append]
      exact ⟨by simp [Text.OnOneLine], hmessage⟩

/-- It starts with the mark of an error exactly where there is one. -/
theorem errorMark_iff
    (h : r.IsAnswer) :
    errorMark <+: r.row ↔ r.error.isSome = true := by
  cases h with
  | @result _ _ text htext =>
      have hmark : ¬errorMark <+: text.toList := by
        intro hprefix
        have hmem : 'E' ∈ text.toList := hprefix.subset (by simp [errorMark])
        exact htext.not_mem (by decide) hmem
      simpa [row, rendered] using hmark
  | error =>
      simp [row, rendered, errorMark]

/-- Result and error are had back from it. -/
theorem outcomeOf_row
    (h : r.IsAnswer) :
    outcomeOf r.row = (r.result, r.error) := by
  unfold outcomeOf
  split
  · next hmark =>
      have herror := h.errorMark_iff.mp hmark
      cases h with
      | result =>
          cases herror
      | error =>
          simp [row, rendered, errorMark]
  · next hmark =>
      have herror := mt h.errorMark_iff.mpr hmark
      cases h with
      | result =>
          simp [row, rendered]
      | error =>
          exact absurd rfl herror

end IsAnswer
end LineResult

/-- The answer to a line is that of its calculation. -/
theorem result_answerLine
    (s : Settings)
    (lineNumber : Int)
    (line : List Char) :
    (answerLine s lineNumber line).result =
      .ofCalculation lineNumber line (Expression.calculate s.precision line).result := by
  unfold answerLine
  dsimp only
  rw [Expression.calculate_strip]
  cases (Expression.calculate s.precision line).result with
  | ok result =>
      rfl
  | error f =>
      rfl

/-- What a calculation with some settings leads to is an answer. -/
theorem isAnswer_ofCalculation
    (s : Settings)
    (lineNumber : Int)
    (line cs : List Char) :
    (LineResult.ofCalculation lineNumber line
      (Expression.calculate s.precision cs).result).IsAnswer := by
  have hscale : 1 ≤ s.precision.scale := Int.ofNat_le.mpr s.scale_bounds.1
  cases hresult : (Expression.calculate s.precision cs).result with
  | ok text =>
      exact .result _ _ (Expression.calculate_isNumberText hresult)
  | error f =>
      exact .error _ _ (Expression.calculate_failure_onOneLine hscale hresult)

/-- Every line is answered. -/
theorem isAnswer_answerLine
    (s : Settings)
    (lineNumber : Int)
    (line : List Char) :
    (answerLine s lineNumber line).result.IsAnswer := by
  rw [result_answerLine]
  exact isAnswer_ofCalculation s lineNumber line line

/-- Lines that are numbered from `first` on are answered one by one. -/
theorem answerLines_eq_mapIdx
    (s : Settings)
    (first : Int)
    (lines : List (List Char)) :
    answerLines s first lines =
      lines.mapIdx fun i line => answerLine s (first + i) line := by
  induction lines generalizing first with
  | nil =>
      rfl
  | cons line lines ih =>
      rw [answerLines, ih, List.mapIdx_cons]
      simp only [Nat.cast_add, Nat.cast_one, Nat.cast_zero, Int.add_zero, Int.add_assoc,
        Int.add_comm 1]

/-- The answers to several lines, one by one. -/
theorem lineResults_eq_mapIdx
    (s : Settings)
    (lines : List (List Char)) :
    lineResults s lines =
      lines.mapIdx fun i line =>
        .ofCalculation (i + 1) line (Expression.calculate s.precision line).result := by
  refine List.ext_getElem? fun i => ?_
  simp only [lineResults, answerLines_eq_mapIdx, List.getElem?_map, List.getElem?_mapIdx,
    Option.map_map, Function.comp_def, result_answerLine, Int.add_comm 1]

/-- Several lines are numbered from one on. -/
theorem lineNumbers_lineResults
    (s : Settings)
    (lines : List (List Char)) :
    (lineResults s lines).map LineResult.lineNumber =
      (List.range lines.length).map fun i : Nat => (i : Int) + 1 := by
  rw [lineResults_eq_mapIdx]
  refine List.ext_getElem (by simp) fun i _ _ => ?_
  simp

/-- And each is named without the blanks around it. -/
theorem expressions_lineResults
    (s : Settings)
    (lines : List (List Char)) :
    (lineResults s lines).map LineResult.expression =
      lines.map fun line => String.ofList (Text.strip line) := by
  rw [lineResults_eq_mapIdx]
  refine List.ext_getElem (by simp) fun i _ _ => ?_
  simp

/-- All of several lines are answered. -/
theorem isAnswer_of_mem_lineResults
    {s : Settings}
    {lines : List (List Char)}
    {r : LineResult}
    (h : r ∈ lineResults s lines) :
    r.IsAnswer := by
  rw [lineResults_eq_mapIdx] at h
  obtain ⟨i, hi, rfl⟩ := List.mem_mapIdx.mp h
  exact isAnswer_ofCalculation s _ _ _

end Batch
end Reckoner
