import Reckoner.Proofs.Batch.LineAnswers
import Reckoner.Session

/-!
# Dialogues

A session shows a prompt before each line of its input and answers the line, up to the exit command.
Lines that come after it are not looked at.  A session takes the line ends off a line and keeps its
other blanks, a batch takes off the blanks at both ends, and both tell the same of the line.

**Results.**
* `converse_eq`: a dialogue in terms of the lines that are asked.
* `hasHalf_run`: which sessions show a text.
* `tells_answer`: a session tells of a line what a batch tells of it.
* `run_dialogue`: the course of a session over any input.
-/

namespace Reckoner

namespace Session

/-- Whether a line ends the session. -/
def endsSession (s : Settings) (line : List Char) : Bool :=
  s.isExitCommand (Text.dropLineEnds line)

/-- The lines before the first that ends the session. -/
def asked (s : Settings) (lines : List (List Char)) : List (List Char) :=
  lines.takeWhile fun line => !endsSession s line

/-- The answer to a line with its end. -/
def response (s : Settings) (line : List Char) : Answer :=
  answer s (Text.dropLineEnds line)

/-- A prompt and an answer on the line that it opens. -/
def exchange (s : Settings) (text : String) : CodeString :=
  s.prompt ++ CodeString.ofString (text ++ "\n")

theorem reply?_eq
    (s : Settings)
    (line : List Char) :
    reply? s line = if endsSession s line then none else some (response s line) := by
  rfl

/-- A dialogue in terms of the lines that are asked: an exchange for each of them, and one more prompt,
which a line feed closes where no line ended the session. -/
theorem converse_eq
    (s : Settings)
    (lines : List (List Char)) :
    converse s lines =
      { output :=
          ((asked s lines).flatMap fun line => exchange s (response s line).text) ++
            s.prompt ++ CodeString.ofString (if lines.any (endsSession s) then "" else "\n")
        answered := (asked s lines).length
        log := (asked s lines).flatMap fun line => (response s line).log } := by
  induction lines with
  | nil =>
      simp [converse, asked]
  | cons line lines ih =>
      rw [converse, reply?_eq]
      cases hends : endsSession s line with
      | true =>
          simp [asked, hends]
      | false =>
          have hasked : asked s (line :: lines) = line :: asked s lines := by
            simp [asked, hends]
          rw [hasked]
          simp [ih, hends, exchange]

/-- What a session shows is a text exactly if its prompt is one: every session shows the prompt, and the
rest of what it shows is text. -/
theorem hasHalf_run
    (s : Settings)
    (input : List Char) :
    (run s input).output.HasHalf ↔ s.prompt.HasHalf := by
  have htext (t : String) : ¬ (CodeString.ofString t).HasHalf :=
    CodeString.not_hasHalf_ofString t
  have hconverse (lines : List (List Char)) :
      (converse s lines).output.HasHalf ↔ s.prompt.HasHalf := by
    induction lines with
    | nil =>
        simp [converse, CodeString.hasHalf_append, htext]
    | cons line lines ih =>
        rw [converse]
        cases reply? s line with
        | none =>
            rfl
        | some a =>
            simp [CodeString.hasHalf_append, htext, ih]
  simp [run, CodeString.hasHalf_append, htext, hconverse]

/-- Whether a text tells what became of a line of a batch. -/
inductive Tells : Batch.LineResult → String → Prop
  | result
      (lineNumber : Int) (expression result : String) :
      Tells ⟨lineNumber, expression, some result, none⟩ ("Result: " ++ result)
  | error
      (lineNumber : Int) (expression message : String) :
      Tells ⟨lineNumber, expression, none, some message⟩ ("Err: " ++ message)

/-- A session tells of a line what a batch tells of it. -/
theorem tells_answer
    (s : Settings)
    (lineNumber : Int)
    (line : List Char) :
    Tells (Batch.answerLine s lineNumber line).result (answer s line).text := by
  rw [Batch.result_answerLine]
  unfold answer
  dsimp only
  cases (Expression.calculate s.precision line).result with
  | ok result =>
      exact .result ..
  | error f =>
      exact .error ..

/-- What tells of an answer stands on one line. -/
theorem Tells.onOneLine
    {r : Batch.LineResult} {text : String}
    (h : Tells r text)
    (hanswer : r.IsAnswer) :
    Text.OnOneLine text.toList := by
  cases h with
  | result =>
      cases hanswer with
      | result _ _ htext =>
          rw [String.toList_append, Text.onOneLine_append]
          exact ⟨by simp [Text.OnOneLine], htext.onOneLine⟩
  | error =>
      cases hanswer with
      | error _ _ hmessage =>
          rw [String.toList_append, Text.onOneLine_append]
          exact ⟨by simp [Text.OnOneLine], hmessage⟩

/-- Whether a text is the response to a line: it stands on one line and tells what a batch has for the
line, with its end or without. -/
structure Responds (s : Settings) (line : List Char) (text : String) : Prop where
  onOneLine : Text.OnOneLine text.toList
  tells : ∀ lineNumber : Int, Tells (Batch.answerLine s lineNumber line).result text
  tells_dropLineEnds : ∀ lineNumber : Int,
    Tells (Batch.answerLine s lineNumber (Text.dropLineEnds line)).result text

theorem responds_response
    (s : Settings)
    (line : List Char) :
    Responds s line (response s line).text := by
  have htells (lineNumber : Int) :
      Tells (Batch.answerLine s lineNumber (Text.dropLineEnds line)).result
        (response s line).text :=
    tells_answer s lineNumber (Text.dropLineEnds line)
  have hsame (lineNumber : Int) :
      Batch.answerLine s lineNumber (Text.dropLineEnds line) =
        Batch.answerLine s lineNumber line := by
    rw [Batch.answerLine, Batch.answerLine, Text.strip_dropLineEnds]
  refine ⟨(htells 1).onOneLine (Batch.isAnswer_answerLine ..), fun lineNumber => ?_, htells⟩
  rw [← hsame]
  exact htells lineNumber

/-- The course of a session over any input: the banner, a prompt and a response for each line before
the first exit command, and one more prompt, which a line feed closes where there is no exit command.
Each response tells what a batch has for the line.  As many lines are answered as there are responses,
and nothing is evaluated for the others. -/
theorem run_dialogue
    (s : Settings)
    (input : List Char) :
    ∃ (lines asked : List (List Char)) (responses : List String),
      Text.FeedLines lines input ∧
      asked = lines.takeWhile (fun line => !s.isExitCommand (Text.dropLineEnds line)) ∧
      List.Forall₂ (Responds s) asked responses ∧
      (run s input).output =
        CodeString.ofString (banner s) ++
          (responses.flatMap fun text => s.prompt ++ CodeString.ofString (text ++ "\n")) ++
          s.prompt ++
          CodeString.ofString
            (if ∃ line ∈ lines, s.isExitCommand (Text.dropLineEnds line) = true then "" else "\n") ∧
      (run s input).answered = responses.length ∧
      (run s input).log =
        asked.flatMap fun line => (answer s (Text.dropLineEnds line)).log := by
  refine ⟨_, asked s (Text.linesWithEnds input),
    (asked s (Text.linesWithEnds input)).map fun line => (response s line).text,
    Text.feedLines_linesWithEnds input, rfl, ?_, ?_, ?_, ?_⟩
  · rw [List.forall₂_map_right_iff, List.forall₂_same]
    exact fun line _ => responds_response s line
  · have hends :
        (Text.linesWithEnds input).any (endsSession s) = true ↔
          ∃ line ∈ Text.linesWithEnds input,
            s.isExitCommand (Text.dropLineEnds line) = true :=
      List.any_eq_true
    rw [run, converse_eq]
    simp only [hends, List.flatMap_map, exchange, List.append_assoc]
  · rw [run, converse_eq, List.length_map]
  · rw [run, converse_eq]
    rfl

/-- A session with one line before the exit command and one after it. -/
example :
    (run .standard "1 +1 \r\n Exit\n2".toList).output =
      .ofString "Enter a mathematical expression (or type 'exit' to quit):\n> Result: 2\n> " := by
  decide +kernel

end Session
end Reckoner
