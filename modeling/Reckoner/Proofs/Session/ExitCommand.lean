import Mathlib.Tactic.Common
import Reckoner.Proofs.Session.Dialogue
import Reckoner.Proofs.Text.Recasing

/-!
# The exit command

A line is the exit command whatever blanks surround it, and its lower case is the exit command exactly
when the line is.  Its upper case is the exit command too where the line keeps its case, as every line
of the first 128 characters does.  Where the exit command does not keep its case, its upper case is
answered like any other line.

**Results.**
* `isExitCommand_recased`: which recased lines are the exit command, and when they end a session.
* `isExitCommand_upper_sharp`: a session that the upper case of its exit command does not end.
-/

namespace Reckoner

namespace Settings

theorem isExitCommand_iff
    {s : Settings}
    {line : List Char} :
    s.isExitCommand line = true ↔
      Text.strip (Text.lower line) = Text.lower s.exitCommand.toList := by
  rw [isExitCommand, beq_iff_eq, Text.strip_lower]

/-- A line counts for its lower case alone, without the blanks around it. -/
theorem isExitCommand_congr
    {s : Settings}
    {line other : List Char}
    (h : Text.strip (Text.lower other) = Text.strip (Text.lower line)) :
    s.isExitCommand other = s.isExitCommand line := by
  rw [Bool.eq_iff_iff, isExitCommand_iff, isExitCommand_iff, h]

theorem isExitCommand_between_blanks
    {before after : List Char}
    (hbefore : ∀ c ∈ before, Text.isBlank c = true)
    (hafter : ∀ c ∈ after, Text.isBlank c = true)
    (s : Settings)
    (line : List Char) :
    s.isExitCommand (before ++ line ++ after) = s.isExitCommand line := by
  unfold isExitCommand
  rw [Text.strip_between_blanks hbefore hafter]

/-- The exit command itself, which has no blanks around it. -/
theorem isExitCommand_exitCommand
    (s : Settings) :
    s.isExitCommand s.exitCommand.toList = true := by
  have hstripped : Text.strip s.exitCommand.toList = s.exitCommand.toList := by
    have h := congrArg String.toList s.exitCommand_stripped
    rwa [Text.stripped, String.toList_ofList] at h
  rw [isExitCommand_iff, Text.strip_lower, hstripped]

theorem isExitCommand_lower
    (s : Settings)
    (line : List Char) :
    s.isExitCommand (Text.lower line) = s.isExitCommand line := by
  exact isExitCommand_congr (by rw [Text.lower_lower])

theorem isExitCommand_upper_of_keepsCase
    {line : List Char}
    (h : Text.KeepsCase line)
    (s : Settings) :
    s.isExitCommand (Text.upper line) = s.isExitCommand line := by
  exact isExitCommand_congr (by rw [Text.lower_upper_eq_iff.mpr h])

/-- A line and its upper case are both the exit command only where the line keeps its case. -/
theorem keepsCase_of_isExitCommand
    {s : Settings}
    {line : List Char}
    (hline : s.isExitCommand line = true)
    (hupper : s.isExitCommand (Text.upper line) = true) :
    Text.KeepsCase line := by
  rw [isExitCommand_iff, Text.strip_lower] at hline hupper
  rw [Text.strip_upper, ← hline] at hupper
  exact Text.keepsCase_strip_iff.mp (Text.lower_upper_eq_iff.mp hupper)

end Settings

namespace Session

open Settings

theorem endsSession_eq
    (s : Settings)
    (line : List Char) :
    endsSession s line = s.isExitCommand line := by
  unfold endsSession isExitCommand
  rw [Text.strip_dropLineEnds]

/-- A session is at its end with a line exactly when the line is the exit command: a prompt has been
shown, and nothing is answered, whatever lines come after it. -/
theorem converse_eq_end_iff
    {s : Settings}
    {line : List Char} :
    (∀ rest : List (List Char), converse s (line :: rest) = ⟨s.prompt, 0, []⟩) ↔
      s.isExitCommand line = true := by
  rw [← endsSession_eq]
  constructor
  · intro h
    have hend := congrArg Transcript.answered (h [])
    rw [converse, reply?_eq] at hend
    cases hends : endsSession s line with
    | true =>
        rfl
    | false =>
        simp [hends] at hend
  · intro hends rest
    rw [converse, reply?_eq, if_pos hends]

/-- Which recased lines are the exit command.  Blanks around a line do not matter, and the lower case of a
line is the exit command exactly when the line is.  The same holds of its upper case where the line keeps
its case, as every line of the first 128 characters does; and where the line is the exit command, its
upper case is too exactly when the line keeps its case.  So the exit command in lower case always ends a
session that comes to it, and the exit command in upper case does so exactly when the exit command keeps
its case. -/
theorem isExitCommand_recased
    {before after : List Char}
    (hbefore : ∀ c ∈ before, Text.isBlank c = true)
    (hafter : ∀ c ∈ after, Text.isBlank c = true)
    (s : Settings)
    (line : List Char) :
    s.isExitCommand (before ++ line ++ after) = s.isExitCommand line ∧
    s.isExitCommand (before ++ Text.lower line ++ after) = s.isExitCommand line ∧
    (Text.KeepsCase line →
      s.isExitCommand (before ++ Text.upper line ++ after) = s.isExitCommand line) ∧
    ((∀ c ∈ line, c.toNat < 0x80) → Text.KeepsCase line) ∧
    (s.isExitCommand line = true →
      (s.isExitCommand (before ++ Text.upper line ++ after) = true ↔ Text.KeepsCase line)) ∧
    (∀ rest : List (List Char),
      converse s ((before ++ Text.lower s.exitCommand.toList ++ after) :: rest) =
        ⟨s.prompt, 0, []⟩) ∧
    ((∀ rest : List (List Char),
      converse s ((before ++ Text.upper s.exitCommand.toList ++ after) :: rest) =
        ⟨s.prompt, 0, []⟩) ↔ Text.KeepsCase s.exitCommand.toList) := by
  have hpadded (cs : List Char) : s.isExitCommand (before ++ cs ++ after) = s.isExitCommand cs :=
    isExitCommand_between_blanks hbefore hafter s cs
  have hupper {cs : List Char} (hcs : s.isExitCommand cs = true) :
      s.isExitCommand (Text.upper cs) = true ↔ Text.KeepsCase cs := by
    refine ⟨keepsCase_of_isExitCommand hcs, fun hkeeps => ?_⟩
    rw [isExitCommand_upper_of_keepsCase hkeeps, hcs]
  rw [converse_eq_end_iff, converse_eq_end_iff, hpadded, hpadded, hpadded, hpadded, hpadded]
  refine ⟨rfl, isExitCommand_lower s line, fun hkeeps => ?_, Text.keepsCase_of_lt, hupper, ?_, ?_⟩
  · exact isExitCommand_upper_of_keepsCase hkeeps s
  · rw [isExitCommand_lower, isExitCommand_exitCommand]
  · exact hupper s.isExitCommand_exitCommand

/-- A command that ends in a final sigma, which its upper case gets back. -/
theorem isExitCommand_recased_final_sigma :
    ∃ s : Settings,
      s.exitCommand = "έξοδος" ∧
      Text.KeepsCase s.exitCommand.toList ∧
      s.isExitCommand "\t ΈΞΟΔΟΣ \n".toList = true ∧
      ∀ rest : List (List Char),
        converse s ("\t ΈΞΟΔΟΣ \n".toList :: rest) = ⟨s.prompt, 0, []⟩ := by
  obtain ⟨s, hs⟩ : ∃ s : Settings, s.exitCommand = "έξοδος" := ⟨{ exitCommand := "έξοδος" }, rfl⟩
  have hkeeps : Text.KeepsCase s.exitCommand.toList := by
    rw [hs]
    decide +kernel
  have hline :
      "\t ΈΞΟΔΟΣ \n".toList =
        "\t ".toList ++ Text.upper s.exitCommand.toList ++ " \n".toList := by
    rw [hs]
    decide +kernel
  have hbefore : ∀ c ∈ "\t ".toList, Text.isBlank c = true := List.all_eq_true.mp (by decide)
  have hafter : ∀ c ∈ " \n".toList, Text.isBlank c = true := List.all_eq_true.mp (by decide)
  obtain ⟨-, -, hsame, -, -, -, hends⟩ :=
    isExitCommand_recased hbefore hafter s s.exitCommand.toList
  rw [hline]
  exact ⟨s, hs, hkeeps, by rw [hsame hkeeps, s.isExitCommand_exitCommand], hends.mpr hkeeps⟩

/-- A command with a letter whose upper case is two letters, which do not come back: the upper case does
not end the session. -/
theorem isExitCommand_upper_sharp :
    ∃ s : Settings,
      s.exitCommand = "schließen" ∧
      Text.upper s.exitCommand.toList = "SCHLIESSEN".toList ∧
      s.isExitCommand s.exitCommand.toList = true ∧
      s.isExitCommand (Text.upper s.exitCommand.toList) = false ∧
      (converse s [Text.upper s.exitCommand.toList]).answered = 1 := by
  refine ⟨{ exitCommand := "schließen" }, rfl, ?_, ?_, ?_, ?_⟩ <;> decide +kernel

end Session
end Reckoner
