import Reckoner.Proofs.Batch.LineAnswers
import Reckoner.Proofs.Files.Access

/-!
# Answers to files

A batch reads its whole input before it opens its output.  If the one can be read and the other written
it has a report, whatever bytes the input holds, and also if the two are one file.  The file that is
written holds one answer on each line, and every answer is read back.

A line of the input may hold bytes that decode to no character.  The replacement characters in their
places mean nothing to an evaluation, so such a line is answered like the line with blanks there.

**Results.**
* `processFile_of_read`, `processFile_of_nowhere`, `processFile_of_write`: batches that a file stands in
  the way of.
* `processFile_eq_ok`, `fileLines_answerText`: the report of a batch, and the file it leaves.
* `processFile_answers`: one answer for each line of the input, from which result and error are had
  back.
* `processFile_faults`: the answers to lines with faults.
-/

namespace Reckoner
namespace Batch

variable {t : FileTree}
variable {inputPath outputPath : String}
variable {d : Destination}
variable {s : Settings}
variable {content : Bytes}

/-- The text of several answers, line by line. -/
theorem answerText_eq
    (results : List LineResult) :
    answerText results = (results.map LineResult.row).flatMap fun row => row ++ ['\n'] := by
  rw [List.flatMap_map]
  rfl

/-- Answers that are written are read back. -/
theorem fileLines_answerText
    {results : List LineResult}
    (h : ∀ r ∈ results, r.IsAnswer) :
    Text.fileLines (Utf8.encode (answerText results)) = results.map LineResult.row := by
  rw [answerText_eq]
  refine Text.fileLines_encode fun row hrow => ?_
  obtain ⟨r, hr, rfl⟩ := List.mem_map.mp hrow
  exact (h r hr).onOneLine_row

/-- A batch that cannot read its input leaves the files as they are. -/
theorem processFile_of_read
    {e : FileError}
    (h : t.read inputPath = .error e) :
    (processFile t inputPath d s).result = .error e ∧ (processFile t inputPath d s).files = t := by
  unfold processFile
  rw [h]
  exact ⟨rfl, rfl⟩

/-- So does one without a place to write its answers to. -/
theorem processFile_of_nowhere
    (hread : t.read inputPath = .ok content)
    (hpath : d.path? s = none) :
    (processFile t inputPath d s).result = .error .noPath ∧
      (processFile t inputPath d s).files = t := by
  unfold processFile
  rw [hread]
  dsimp only
  rw [hpath]
  exact ⟨rfl, rfl⟩

/-- So does one that cannot write them. -/
theorem processFile_of_write
    (hread : t.read inputPath = .ok content)
    (hpath : d.path? s = some outputPath)
    {e : FileError}
    (h : writeAnswers t (lineResults s (Text.fileLines content)) outputPath = .error e) :
    (processFile t inputPath d s).result = .error e ∧ (processFile t inputPath d s).files = t := by
  unfold lineResults at h
  unfold processFile
  rw [hread]
  dsimp only
  rw [hpath]
  dsimp only
  rw [h]
  exact ⟨rfl, rfl⟩

/-- A batch that can read its input and write its output has a report, and leaves the answers in the
output. -/
theorem processFile_eq_ok
    (hread : t.read inputPath = .ok content)
    (hpath : d.path? s = some outputPath)
    (hwrite : t.CanWrite outputPath) :
    (processFile t inputPath d s).result =
        .ok ⟨inputPath, outputPath, lineResults s (Text.fileLines content)⟩ ∧
      t.write outputPath (Utf8.encode (answerText (lineResults s (Text.fileLines content)))) =
        .ok (processFile t inputPath d s).files := by
  obtain ⟨files, hfiles⟩ :=
    hwrite.exists_write (Utf8.encode (answerText (lineResults s (Text.fileLines content))))
  have hanswers : writeAnswers t (lineResults s (Text.fileLines content)) outputPath = .ok files :=
    hfiles
  unfold lineResults at hanswers hfiles ⊢
  unfold processFile
  rw [hread]
  dsimp only
  rw [hpath]
  dsimp only
  rw [hanswers]
  exact ⟨rfl, hfiles⟩

/-- Its output is read back as the answers. -/
theorem exists_read_processFile
    (hread : t.read inputPath = .ok content)
    (hpath : d.path? s = some outputPath)
    (hwrite : t.CanWrite outputPath) :
    ∃ written : Bytes,
      (processFile t inputPath d s).files.read outputPath = .ok written ∧
      Text.fileLines written =
        (lineResults s (Text.fileLines content)).map LineResult.row :=
  ⟨_, FileTree.read_of_write (processFile_eq_ok hread hpath hwrite).2,
    fileLines_answerText fun _ => isAnswer_of_mem_lineResults⟩

/-- Every line of a file that can be read is answered on a line of its own, if the output can be
written.  The report numbers the lines from one on and has either a result or an error for each, the
answers are read back from the output as they are, and each of them tells result and error. -/
theorem processFile_answers
    (hread : t.read inputPath = .ok content)
    (hpath : d.path? s = some outputPath)
    (hwrite : t.CanWrite outputPath) :
    ∃ (lines : List Bytes) (results : List LineResult) (written : Bytes),
      Text.LinesOf lines content ∧
      results = lineResults s (lines.map Utf8.decodeLossy) ∧
      (processFile t inputPath d s).result = .ok ⟨inputPath, outputPath, results⟩ ∧
      (processFile t inputPath d s).files.read outputPath = .ok written ∧
      results.map LineResult.lineNumber =
        (List.range lines.length).map (fun i : Nat => (i : Int) + 1) ∧
      results.map LineResult.expression =
        lines.map (fun line => String.ofList (Text.strip (Utf8.decodeLossy line))) ∧
      (∀ r ∈ results, r.HasOutcome) ∧
      (Text.fileLines written).map (fun row => some (String.ofList row)) =
        results.map LineResult.rendered ∧
      (∀ r ∈ results, ∀ text : String, r.rendered = some text →
        ("Err: ".toList <+: text.toList ↔ r.error.isSome = true)) ∧
      (Text.fileLines written).map LineResult.outcomeOf =
        results.map fun r => (r.result, r.error) := by
  obtain ⟨written, hwritten, hrows⟩ := exists_read_processFile hread hpath hwrite
  have hresult := (processFile_eq_ok hread hpath hwrite).1
  obtain ⟨lines, hlines⟩ := Text.exists_linesOf content
  rw [Text.fileLines_of_linesOf hlines] at hrows hresult
  have hanswer : ∀ r ∈ lineResults s (lines.map Utf8.decodeLossy), r.IsAnswer :=
    fun _ => isAnswer_of_mem_lineResults
  refine ⟨lines, _, written, hlines, rfl, hresult, hwritten, ?_, ?_, ?_, ?_, ?_, ?_⟩
  · rw [lineNumbers_lineResults, List.length_map]
  · rw [expressions_lineResults, List.map_map]
    rfl
  · exact fun r hr => (hanswer r hr).hasOutcome
  · rw [hrows, List.map_map]
    exact List.map_congr_left fun r hr => (hanswer r hr).rendered_eq.symm
  · intro r hr text htext
    have hrow : text.toList = r.row := by
      rw [LineResult.row, htext, Option.getD_some]
    rw [hrow]
    exact (hanswer r hr).errorMark_iff
  · rw [hrows, List.map_map]
    exact List.map_congr_left fun r hr => (hanswer r hr).outcomeOf_row

/-- A file of two lines that is answered in its own place. -/
theorem processFile_answers_in_place :
    let t : FileTree := { entries := [(["a"], .file [0x37, 0x0D, 0x0A, 0xFF])] }
    ∃ (lines : List Bytes) (results : List LineResult) (written : Bytes),
      Text.LinesOf lines [0x37, 0x0D, 0x0A, 0xFF] ∧
      (processFile t "a" (.path "a") .standard).result = .ok ⟨"a", "a", results⟩ ∧
      (processFile t "a" (.path "a") .standard).files.read "a" = .ok written ∧
      results.length = lines.length ∧
      (Text.fileLines written).map LineResult.outcomeOf =
        results.map fun r => (r.result, r.error) := by
  intro t
  have hread : t.read "a" = .ok [0x37, 0x0D, 0x0A, 0xFF] := by decide +kernel
  have hpath : (Destination.path "a").path? .standard = some "a" := rfl
  have hwrite : t.CanWrite "a" := ⟨_, rfl⟩
  obtain ⟨lines, results, written, hlines, -, hresult, hwritten, hnumbers, -, -, -, -, houtcomes⟩ :=
    processFile_answers hread hpath hwrite
  refine ⟨lines, results, written, hlines, hresult, hwritten, ?_, houtcomes⟩
  simpa using congrArg List.length hnumbers

section Faults

open Expression

/-- The text of a line with a blank in the place of each fault. -/
def blanked (line : Bytes) : List Char :=
  (Utf8.scan line).map fun c => c.getD ' '

/-- A calculation sees no difference between a replacement character and a blank. -/
theorem calculate_decodeLossy
    (p : Precision)
    (line : Bytes) :
    calculate p (Utf8.decodeLossy line) = calculate p (blanked line) := by
  have halike : List.Forall₂ Alike (Utf8.decodeLossy line) (blanked line) := by
    unfold Utf8.decodeLossy blanked
    rw [List.forall₂_map_left_iff, List.forall₂_map_right_iff, List.forall₂_same]
    rintro (_ | c) -
    · exact .inr ⟨by decide, by decide⟩
    · exact .inl rfl
  rw [calculate, calculate, evaluate_of_alike halike]

/-- Each of the lines that lie in a file is answered as the line with blanks in the place of its
faults. -/
theorem getElem?_lineResults
    {lines : List Bytes}
    (hlines : Text.LinesOf lines content)
    {i : Nat} {line : Bytes}
    (hline : lines[i]? = some line) :
    (lineResults s (Text.fileLines content))[i]? =
      some (.ofCalculation (i + 1) (Utf8.decodeLossy line)
        (calculate s.precision (blanked line)).result) := by
  rw [Text.fileLines_of_linesOf hlines, lineResults_eq_mapIdx, List.getElem?_mapIdx,
    List.getElem?_map, hline]
  rw [Option.map_some, Option.map_some, calculate_decodeLossy]

/-- A line with faults is answered as the line with blanks in their place.  So it has an error where
that line fails, and only there, and it has one if nothing but faults and ignored characters stand
on it. -/
theorem processFile_faults
    (hread : t.read inputPath = .ok content)
    (hpath : d.path? s = some outputPath)
    (hwrite : t.CanWrite outputPath) :
    ∃ (results : List LineResult) (written : Bytes),
      (processFile t inputPath d s).result = .ok ⟨inputPath, outputPath, results⟩ ∧
      (processFile t inputPath d s).files.read outputPath = .ok written ∧
      (∃ lines : List Bytes, Text.LinesOf lines content) ∧
      ∀ lines : List Bytes, Text.LinesOf lines content →
        results.length = lines.length ∧
        (Text.fileLines written).length = lines.length ∧
        ∀ (i : Nat) (line : Bytes), lines[i]? = some line →
          ∃ (r : LineResult) (row : List Char),
            results[i]? = some r ∧
            (Text.fileLines written)[i]? = some row ∧
            r = .ofCalculation (i + 1) (Utf8.decodeLossy line)
              (calculate s.precision (blanked line)).result ∧
            (r.error.isSome = true ↔
              ∃ f : Failure, (calculate s.precision (blanked line)).result = .error f) ∧
            ("Err: ".toList <+: row ↔ r.error.isSome = true) ∧
            ((∀ c : Char, some c ∈ Utf8.scan line → isMeaningful c = false) →
              r.error = some "Malformed expression: no value to evaluate") := by
  obtain ⟨written, hwritten, hrows⟩ := exists_read_processFile hread hpath hwrite
  refine ⟨_, written, (processFile_eq_ok hread hpath hwrite).1, hwritten,
    Text.exists_linesOf content, fun lines hlines => ?_⟩
  have hlength : (lineResults s (Text.fileLines content)).length = lines.length := by
    rw [Text.fileLines_of_linesOf hlines, lineResults_eq_mapIdx, List.length_mapIdx,
      List.length_map]
  refine ⟨hlength, by rw [hrows, List.length_map, hlength], fun i line hline => ?_⟩
  have hresult := getElem?_lineResults (s := s) hlines hline
  have hanswer := isAnswer_ofCalculation s (i + 1) (Utf8.decodeLossy line) (blanked line)
  refine ⟨_, _, hresult, by rw [hrows, List.getElem?_map, hresult]; rfl, rfl, ?_,
    hanswer.errorMark_iff, ?_⟩
  · cases (calculate s.precision (blanked line)).result with
    | ok text =>
        simp [LineResult.ofCalculation]
    | error f =>
        simp [LineResult.ofCalculation]
  · intro hignored
    have hblank : ∀ c ∈ blanked line, isMeaningful c = false := by
      intro c hc
      obtain ⟨_ | d, hd, rfl⟩ := List.mem_map.mp hc
      · decide
      · exact hignored d hd
    rw [calculate, evaluate_of_ignored hblank]
    rfl

/-- A fault between two digits, and one alone on its line. -/
theorem processFile_faults_two_lines :
    let t : FileTree := { entries := [(["a"], .file [0x31, 0xFF, 0x32, 0x0A, 0xC3])] }
    ∃ (results : List LineResult) (r q : LineResult),
      (processFile t "a" (.path "b") .standard).result = .ok ⟨"a", "b", results⟩ ∧
      results[0]? = some r ∧
      r.result = some "12" ∧
      results[1]? = some q ∧
      q.error = some "Malformed expression: no value to evaluate" := by
  intro t
  have hread : t.read "a" = .ok [0x31, 0xFF, 0x32, 0x0A, 0xC3] := by decide +kernel
  have hpath : (Destination.path "b").path? .standard = some "b" := rfl
  have hwrite : t.CanWrite "b" := ⟨_, rfl⟩
  obtain ⟨results, written, hresult, -, -, hlines⟩ := processFile_faults hread hpath hwrite
  have hlinesOf : Text.LinesOf [[0x31, 0xFF, 0x32], [0xC3]] [0x31, 0xFF, 0x32, 0x0A, 0xC3] :=
    .cons (by unfold Text.Endless; decide +kernel) (.feed [0xC3])
      (.last (List.cons_ne_nil _ _) (by unfold Text.Endless; decide +kernel))
  obtain ⟨-, -, hlines⟩ := hlines _ hlinesOf
  obtain ⟨r, -, hr, -, hcalculation, -⟩ := hlines 0 _ rfl
  obtain ⟨q, -, hq, -, -, -, -, hignored⟩ := hlines 1 _ rfl
  refine ⟨results, r, q, hresult, hr, ?_, hq, hignored ?_⟩
  · rw [hcalculation]
    decide +kernel
  · have hscan : Utf8.scan [0xC3] = [none] := by decide +kernel
    simp [hscan]

/-- A line with a fault that has a result: the fault stands between two digits. -/
theorem processFile_fault_between_digits :
    let line : Bytes := [0x31, 0xFF, 0x32]
    let t : FileTree := { entries := [(["in.txt"], .file line)] }
    none ∈ Utf8.scan line ∧
    Text.LinesOf [line] line ∧
    (processFile t "in.txt" (.path "out.txt") .standard).result =
      .ok ⟨"in.txt", "out.txt", [⟨1, String.ofList ['1', Utf8.replacement, '2'], some "12", none⟩]⟩ := by
  refine ⟨by decide +kernel, .last (List.cons_ne_nil _ _) ?_, by decide +kernel⟩
  unfold Text.Endless
  decide +kernel

end Faults

end Batch
end Reckoner
