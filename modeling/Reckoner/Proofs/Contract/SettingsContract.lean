import Reckoner.Proofs.Contract.SchemaDemands
import Reckoner.Settings
import Mathlib.Tactic.MkIffOfInductiveProp

/-!
# The contract of settings

A settings document is checked against its schema and then converted, and both state the same bounds.
The conversion takes more than the schema lets through, but of what the schema lets through it refuses
one thing only: an exit command that has characters, but nothing except blanks.  Settings written as a
document meet the schema, and are read back as they are.

**Results.**
* `settingsSchema_accepts_iff`: what the schema lets through.
* `toBounded_of_isWhole`, `toLogLevel_of_mem`, `toExitCommand_of_ne_empty`: how that is converted.
* `ofDocument_agrees`: the schema and the conversion together.
-/

namespace Reckoner

open Contract

namespace Settings

/-- The names of settings. -/
def names : List String :=
  ["decimal_scale", "max_exact_decimal_places", "output_path", "exit_command", "prompt", "log_level"]

/-- The log levels as the schema spells them. -/
def levelTexts : List String :=
  ["DEBUG", "INFO", "WARNING", "ERROR", "CRITICAL", "debug", "info", "warning", "error", "critical"]

/-- What the schema asks of the members of a settings document. -/
@[mk_iff] structure Demands (members : List (CodeString × Json)) : Prop where
  known : ∀ m ∈ members, ∃ known ∈ names, .ofString known = m.1
  scale :
    ∀ v, members.lookup ("decimal_scale" : CodeString) = some v →
      ∃ n : Int, v.IsWhole n ∧ 1 ≤ n ∧ n ≤ 1000
  exactPlaces :
    ∀ v, members.lookup ("max_exact_decimal_places" : CodeString) = some v →
      ∃ n : Int, v.IsWhole n ∧ 0 ≤ n ∧ n ≤ 18
  outputPath :
    ∀ v, members.lookup ("output_path" : CodeString) = some v →
      ∃ s : CodeString, v = .string s ∧ s ≠ []
  exitCommand :
    ∀ v, members.lookup ("exit_command" : CodeString) = some v →
      ∃ s : CodeString, v = .string s ∧ s ≠ []
  prompt :
    ∀ v, members.lookup ("prompt" : CodeString) = some v → ∃ s : CodeString, v = .string s
  logLevel :
    ∀ v, members.lookup ("log_level" : CodeString) = some v → ∃ s ∈ levelTexts, v = .string s

/-- The schema lets through the objects that meet these demands. -/
theorem settingsSchema_accepts_iff
    (v : Json) :
    settingsSchema.accepts v = true ↔ ∃ members, v = .object members ∧ Demands members := by
  have hnames : Schema.memberNames settingsSchema = names := by
    rfl
  rw [Schema.accepts_iff, Schema.violations, hnames, schemaViolations_eq_nil_iff]
  cases v <;>
    simp [settingsSchema, dialect, keywordViolations, memberViolations_eq_nil_iff, accepts_whole_iff,
      accepts_fullText_iff, accepts_text_iff, accepts_among_iff, Kind.covers, demands_iff, levelTexts]

section Conversions

variable {v : Json}

/-- A whole number within bounds that a word holds is converted to itself. -/
theorem toBounded_of_isWhole
    {low high : Nat}
    (hword : high < magnitudeLimit)
    {n : Int}
    (h : v.IsWhole n)
    (hlow : low ≤ n)
    (hhigh : n ≤ high) :
    ∃ m : { m : Nat // low ≤ m ∧ m ≤ high }, toBounded low high v = .ok m ∧ (m.1 : Int) = n := by
  have hinteger : toInteger v = .ok n := by
    cases h with
    | integer =>
        rfl
    | @number x n h =>
        cases x with
        | finite =>
            have hsmall : n.natAbs < magnitudeLimit := by
              omega
            simp [toInteger, h, hsmall]
        | infinite | nan =>
            cases h
  refine ⟨⟨n.toNat, by omega, by omega⟩, ?_, Int.toNat_of_nonneg (by omega)⟩
  simp only [toBounded, hinteger]
  rw [dif_neg (by omega), dif_neg (by omega)]

/-- A text with characters is converted to itself. -/
theorem toFullText_of_ne_empty
    {s : String}
    (h : s ≠ "") :
    toFullText (.string s) = .ok ⟨s, h⟩ := by
  simp [toFullText, toCodeString, h]

/-- A text is blank if nothing is left of it without its blanks. -/
theorem stripped_eq_empty_iff
    (s : String) :
    Text.stripped s = "" ↔ ∀ c ∈ s.toList, Text.isBlank c = true := by
  rw [← Text.strip_eq_nil_iff, Text.stripped, ← String.toList_inj, String.toList_ofList]
  rfl

/-- So is a text that is an exit command, without the blanks around it. -/
theorem toExitCommand_of_ne_empty
    {s : String}
    (h : s ≠ "")
    (hstripped : Text.stripped s ≠ "") :
    toExitCommand (.string s) =
      .ok ⟨Text.stripped s, hstripped, Text.stripped_stripped s⟩ := by
  simp [toExitCommand, toFullText_of_ne_empty h, hstripped]

/-- A text of blanks is refused as an exit command. -/
theorem toExitCommand_of_blank
    {s : String}
    (h : s ≠ "")
    (hstripped : Text.stripped s = "") :
    toExitCommand (.string s) = .error .blankExitCommand := by
  simp [toExitCommand, toFullText_of_ne_empty h, hstripped]

/-- A string that is no text is refused as either. -/
theorem toFullText_of_hasHalf
    {s : CodeString}
    (h : s.HasHalf) :
    toFullText (.string s) = .error .notText := by
  simp [toFullText, toCodeString, CodeString.toString?_of_hasHalf h]

theorem toExitCommand_of_hasHalf
    {s : CodeString}
    (h : s.HasHalf) :
    toExitCommand (.string s) = .error .notText := by
  simp [toExitCommand, toFullText_of_hasHalf h]

/-- The texts of the schema name levels. -/
theorem toLogLevel_of_mem
    {s : String}
    (h : s ∈ levelTexts) :
    ∃ level : LogLevel, toLogLevel (.string s) = .ok level := by
  have hall : ∀ t ∈ levelTexts, (LogLevel.ofName? (Text.inUpperCase t)).isSome = true := by
    decide +kernel
  obtain ⟨level, hlevel⟩ := Option.isSome_iff_exists.mp (hall s h)
  exact ⟨level, by simp [toLogLevel, toCodeString, hlevel]⟩

/-- The names of the levels are in upper case. -/
theorem inUpperCase_name
    (level : LogLevel) :
    Text.inUpperCase level.name = level.name := by
  have hall : ∀ l ∈ LogLevel.all, Text.inUpperCase l.name = l.name := by
    decide +kernel
  exact hall level (by cases level <;> decide)

/-- A setting is had if its value, where it is there, is converted. -/
theorem read_eq_ok
    {α : Type}
    {members : List (CodeString × Json)}
    {name : String}
    (standard : α)
    {convert : Json → Except SettingFault α}
    (h : ∀ v, members.lookup (name : CodeString) = some v → ∃ a, convert v = .ok a) :
    ∃ a, read members name standard convert = .ok a := by
  unfold read
  cases hlookup : members.lookup (name : CodeString) with
  | none =>
      exact ⟨standard, rfl⟩
  | some v =>
      exact h v hlookup

end Conversions

/-- A document has an exit command of blanks. -/
def HasBlankExitCommand (v : Json) : Prop :=
  ∃ s : String,
    v.member? "exit_command" = some (.string s) ∧ ∀ c ∈ s.toList, Text.isBlank c = true

/-- A member of a document is a string in which half of a pair stands alone. -/
def HasHalf (v : Json) (name : String) : Prop :=
  ∃ s : CodeString, v.member? name = some (.string s) ∧ s.HasHalf

/-- What is refused of a document that meets the schema. -/
inductive Refuses (v : Json) : SettingError → Prop
  | outputPath
      (h : HasHalf v "output_path") :
      Refuses v ⟨"output_path", .notText⟩
  | exitCommand
      (h : HasHalf v "exit_command") :
      Refuses v ⟨"exit_command", .notText⟩
  | blankExitCommand
      (h : HasBlankExitCommand v) :
      Refuses v ⟨"exit_command", .blankExitCommand⟩

section Members

variable {members : List (CodeString × Json)}

theorem standard_exitCommand :
    standard.exitCommand ≠ "" ∧ Text.stripped standard.exitCommand = standard.exitCommand :=
  ⟨standard.exitCommand_full, standard.exitCommand_stripped⟩

/-- The output path of a list of members. -/
def readOutputPath
    (members : List (CodeString × Json)) :
    Except SettingFault { s : String // s ≠ "" } :=
  read members "output_path" ⟨standard.outputPath, standard.outputPath_full⟩ toFullText

/-- The exit command of a list of members. -/
def readExitCommand
    (members : List (CodeString × Json)) :
    Except SettingFault { s : String // s ≠ "" ∧ Text.stripped s = s } :=
  read members "exit_command" ⟨standard.exitCommand, standard_exitCommand⟩ toExitCommand

/-- The errors of the output path and the exit command. -/
def textErrors
    (members : List (CodeString × Json)) : List SettingError :=
  errorOf "output_path" (readOutputPath members) ++ errorOf "exit_command" (readExitCommand members)

/-- Members that meet the schema are settings, unless the output path or the exit command is refused. -/
theorem Demands.ofMembers
    (h : Demands members) :
    (textErrors members = [] → ∃ s : Settings, ofMembers members = .ok s) ∧
    (textErrors members ≠ [] → Settings.ofMembers members = .error (textErrors members)) := by
  have whole :
      ∀ {low high : Nat} {name : String} (initial : { n : Nat // low ≤ n ∧ n ≤ high }),
        high < magnitudeLimit →
        (∀ v, members.lookup (name : CodeString) = some v →
          ∃ n : Int, v.IsWhole n ∧ low ≤ n ∧ n ≤ high) →
        ∃ n, read members name initial (toBounded low high) = .ok n := by
    intro low high name initial hword hdemand
    refine read_eq_ok initial fun v hv => ?_
    obtain ⟨n, hn, hlow, hhigh⟩ := hdemand v hv
    obtain ⟨m, hm, -⟩ := toBounded_of_isWhole hword hn hlow hhigh
    exact ⟨m, hm⟩
  obtain ⟨scale, hscale⟩ :=
    whole ⟨standard.scale, standard.scale_bounds⟩ (by decide) h.scale
  obtain ⟨exactPlaces, hexactPlaces⟩ :=
    whole ⟨standard.exactPlaces, Nat.zero_le _, standard.exactPlaces_le⟩ (by decide) h.exactPlaces
  obtain ⟨prompt, hprompt⟩ : ∃ a, read members "prompt" standard.prompt toCodeString = .ok a := by
    refine read_eq_ok _ fun v hv => ?_
    obtain ⟨s, rfl⟩ := h.prompt v hv
    exact ⟨s, rfl⟩
  obtain ⟨logLevel, hlogLevel⟩ :
      ∃ a, read members "log_level" standard.logLevel toLogLevel = .ok a := by
    refine read_eq_ok _ fun v hv => ?_
    obtain ⟨s, hs, rfl⟩ := h.logLevel v hv
    exact toLogLevel_of_mem hs
  unfold textErrors readOutputPath readExitCommand
  cases houtputPath :
      read members "output_path" ⟨standard.outputPath, standard.outputPath_full⟩ toFullText <;>
    cases hexitCommand :
        read members "exit_command" ⟨standard.exitCommand, standard_exitCommand⟩ toExitCommand <;>
      simp [Settings.ofMembers, hscale, hexactPlaces, houtputPath, hexitCommand, hprompt, hlogLevel,
        errorOf]

/-- An output path of the schema is refused exactly if half of a pair stands alone in it. -/
theorem Demands.mem_outputPath_iff
    (h : Demands members)
    (e : SettingError) :
    e ∈ errorOf "output_path" (readOutputPath members) ↔
      HasHalf (.object members) "output_path" ∧ e = ⟨"output_path", .notText⟩ := by
  unfold readOutputPath read
  cases hlookup : members.lookup ("output_path" : CodeString) with
  | none =>
      simp [HasHalf, Json.member?, hlookup, errorOf]
  | some v =>
      obtain ⟨s, rfl, hne⟩ := h.outputPath v hlookup
      rcases s.eq_ofString_or_hasHalf with ⟨t, rfl⟩ | hhalf
      · have hfull : t ≠ "" :=
          mt CodeString.ofString_eq_nil.mpr hne
        simp [HasHalf, Json.member?, hlookup, toFullText_of_ne_empty hfull, errorOf,
          CodeString.not_hasHalf_ofString]
      · simp [HasHalf, Json.member?, hlookup, toFullText_of_hasHalf hhalf, errorOf, hhalf]

/-- An exit command of the schema is refused exactly if half of a pair stands alone in it, or if it is
blank. -/
theorem Demands.mem_exitCommand_iff
    (h : Demands members)
    (e : SettingError) :
    e ∈ errorOf "exit_command" (readExitCommand members) ↔
      (HasHalf (.object members) "exit_command" ∧ e = ⟨"exit_command", .notText⟩) ∨
      (HasBlankExitCommand (.object members) ∧ e = ⟨"exit_command", .blankExitCommand⟩) := by
  unfold readExitCommand read
  cases hlookup : members.lookup ("exit_command" : CodeString) with
  | none =>
      simp [HasHalf, HasBlankExitCommand, Json.member?, hlookup, errorOf]
  | some v =>
      obtain ⟨s, rfl, hne⟩ := h.exitCommand v hlookup
      rcases s.eq_ofString_or_hasHalf with ⟨t, rfl⟩ | hhalf
      · have hfull : t ≠ "" :=
          mt CodeString.ofString_eq_nil.mpr hne
        have hwhole : ¬ HasHalf (.object members) "exit_command" := by
          simp [HasHalf, Json.member?, hlookup, CodeString.not_hasHalf_ofString]
        have hblank :
            HasBlankExitCommand (.object members) ↔ Text.stripped t = "" := by
          simp [HasBlankExitCommand, Json.member?, hlookup, stripped_eq_empty_iff]
        by_cases hstripped : Text.stripped t = ""
        · simp [toExitCommand_of_blank hfull hstripped, errorOf, hwhole, hblank, hstripped]
        · simp [toExitCommand_of_ne_empty hfull hstripped, errorOf, hwhole, hblank, hstripped]
      · have hblank : ¬ HasBlankExitCommand (.object members) := by
          rintro ⟨t, ht, -⟩
          obtain rfl := Json.string.inj (Option.some.inj (hlookup.symm.trans ht))
          exact CodeString.not_hasHalf_ofString t hhalf
        simp [HasHalf, Json.member?, hlookup, toExitCommand_of_hasHalf hhalf, errorOf, hhalf, hblank]

/-- So these are the errors of members that meet the schema. -/
theorem Demands.mem_textErrors_iff
    (h : Demands members)
    (e : SettingError) :
    e ∈ textErrors members ↔ Refuses (.object members) e := by
  rw [textErrors, List.mem_append, h.mem_outputPath_iff, h.mem_exitCommand_iff]
  constructor
  · rintro (⟨hhalf, rfl⟩ | ⟨hhalf, rfl⟩ | ⟨hblank, rfl⟩)
    · exact .outputPath hhalf
    · exact .exitCommand hhalf
    · exact .blankExitCommand hblank
  · rintro (hhalf | hhalf | hblank)
    · exact .inl ⟨hhalf, rfl⟩
    · exact .inr (.inl ⟨hhalf, rfl⟩)
    · exact .inr (.inr ⟨hblank, rfl⟩)

end Members

section RoundTrip

variable (s : Settings)

/-- Settings as a document meet the schema. -/
theorem settingsSchema_accepts_toJson :
    settingsSchema.accepts s.toJson = true := by
  obtain ⟨hscale, hscale'⟩ := s.scale_bounds
  have hexactPlaces := s.exactPlaces_le
  have hlevel : s.logLevel.name ∈ levelTexts := by
    cases s.logLevel <;> decide
  rw [settingsSchema_accepts_iff]
  refine ⟨_, rfl, ?_, ?_, ?_, ?_, ?_, ?_, ?_⟩
  · simp [names]
  · rintro v hv
    cases hv
    exact ⟨_, .integer _, by omega, by omega⟩
  · rintro v hv
    cases hv
    exact ⟨_, .integer _, by omega, by omega⟩
  · rintro v hv
    cases hv
    exact ⟨_, rfl, mt CodeString.ofString_eq_nil.mp s.outputPath_full⟩
  · rintro v hv
    cases hv
    exact ⟨_, rfl, mt CodeString.ofString_eq_nil.mp s.exitCommand_full⟩
  · rintro v hv
    cases hv
    exact ⟨_, rfl⟩
  · rintro v hv
    cases hv
    exact ⟨_, hlevel, rfl⟩

/-- They are converted to themselves. -/
theorem ofJson_toJson :
    ofJson s.toJson = .ok s := by
  have bounded :
      ∀ {low high n : Nat} (h : low ≤ n ∧ n ≤ high),
        toBounded low high (.integer n) = .ok ⟨n, h⟩ := by
    intro low high n h
    simp only [toBounded, toInteger]
    rw [dif_neg (by omega), dif_neg (by omega)]
    rfl
  have hexitCommand :
      toExitCommand (.string s.exitCommand) =
        .ok ⟨s.exitCommand, s.exitCommand_full, s.exitCommand_stripped⟩ := by
    simp [toExitCommand, toFullText_of_ne_empty s.exitCommand_full, s.exitCommand_stripped,
      s.exitCommand_full]
  have hlogLevel : toLogLevel (.string s.logLevel.name) = .ok s.logLevel := by
    simp [toLogLevel, toCodeString, inUpperCase_name, LogLevel.ofName?_name]
  simp [ofJson, toJson, Settings.ofMembers, read, List.lookup_cons, bounded s.scale_bounds,
    bounded ⟨Nat.zero_le _, s.exactPlaces_le⟩, toFullText_of_ne_empty s.outputPath_full,
    hexitCommand, toCodeString, hlogLevel]

end RoundTrip

section Documents

variable {v : Json}

/-- A document that violates the schema is refused for it. -/
theorem ofDocument_of_not_accepts
    (h : settingsSchema.accepts v = false) :
    ∃ e, ofDocument v = .error (.contract e) := by
  cases hcheck : settingsSchema.check v with
  | error e =>
      exact ⟨e, by simp [ofDocument, hcheck]⟩
  | ok =>
      rw [Schema.check_eq_ok_iff, ← Schema.accepts_iff, h] at hcheck
      cases hcheck

/-- A document that meets the schema is converted. -/
theorem ofDocument_of_accepts
    (h : settingsSchema.accepts v = true) :
    ofDocument v = (ofJson v).mapError .settings := by
  rw [Schema.accepts_iff, ← Schema.check_eq_ok_iff] at h
  unfold ofDocument
  rw [h]
  cases ofJson v <;> rfl

end Documents

/-- A document that violates the schema is refused for it, and no other is.  One that meets it states
settings, unless its exit command is blank or half of a pair stands alone in its output path or its exit
command, and then these are the only faults.  All settings are within the bounds of the schema, and as a
document they are read back as they are. -/
theorem ofDocument_agrees
    (v : Json) :
    (settingsSchema.accepts v = false ↔ ∃ e, ofDocument v = .error (.contract e)) ∧
    (settingsSchema.accepts v = true →
      ((∃ e, Refuses v e) →
        ∃ es, ofDocument v = .error (.settings es) ∧ ∀ e, e ∈ es ↔ Refuses v e) ∧
      ((¬ ∃ e, Refuses v e) → ∃ s, ofDocument v = .ok s)) ∧
    ∀ s : Settings,
      (1 ≤ s.scale ∧ s.scale ≤ 1000) ∧
      s.exactPlaces ≤ 18 ∧
      s.outputPath ≠ "" ∧
      (∃ c ∈ s.exitCommand.toList, Text.isBlank c = false) ∧
      Text.stripped s.exitCommand = s.exitCommand ∧
      s.logLevel.name ∈ ["DEBUG", "INFO", "WARNING", "ERROR", "CRITICAL"] ∧
      settingsSchema.accepts s.toJson = true ∧
      ofDocument s.toJson = .ok s := by
  refine ⟨⟨ofDocument_of_not_accepts, ?_⟩, ?_, ?_⟩
  · rintro ⟨e, he⟩
    by_contra haccepts
    rw [ofDocument_of_accepts (Bool.not_eq_false _ |>.mp haccepts)] at he
    cases hread : ofJson v <;> rw [hread] at he <;> cases he
  · intro haccepts
    rw [ofDocument_of_accepts haccepts]
    obtain ⟨members, rfl, hdemands⟩ := (settingsSchema_accepts_iff v).mp haccepts
    constructor
    · rintro ⟨e, he⟩
      have herrors : textErrors members ≠ [] :=
        List.ne_nil_of_mem ((hdemands.mem_textErrors_iff e).mpr he)
      refine ⟨textErrors members, ?_, hdemands.mem_textErrors_iff⟩
      rw [ofJson, hdemands.ofMembers.2 herrors]
      rfl
    · intro hnone
      have herrors : textErrors members = [] := by
        rw [List.eq_nil_iff_forall_not_mem]
        exact fun e he => hnone ⟨e, (hdemands.mem_textErrors_iff e).mp he⟩
      obtain ⟨s, hs⟩ := hdemands.ofMembers.1 herrors
      exact ⟨s, by rw [ofJson, hs]; rfl⟩
  · intro s
    have haccepts := settingsSchema_accepts_toJson s
    have hexitCommand : ∃ c ∈ s.exitCommand.toList, Text.isBlank c = false := by
      by_contra hnone
      refine s.exitCommand_full ?_
      rw [← s.exitCommand_stripped, stripped_eq_empty_iff]
      intro c hc
      by_contra hfull
      exact hnone ⟨c, hc, by simpa using hfull⟩
    refine ⟨s.scale_bounds, s.exactPlaces_le, s.outputPath_full, hexitCommand,
      s.exitCommand_stripped, ?_, haccepts, ?_⟩
    · cases s.logLevel <;> decide
    · rw [ofDocument_of_accepts haccepts, ofJson_toJson]
      rfl

/-- A scale with a fraction of zero and a level in lower case are settings; a blank exit command beside
them is not. -/
theorem ofDocument_agrees_fraction :
    (∃ s : Settings,
      ofDocument (.object [("decimal_scale", .number (.finite false 5 1)),
        ("log_level", .string "debug")]) = .ok s) ∧
    ∃ es,
      ofDocument (.object [("decimal_scale", .number (.finite false 5 1)),
        ("exit_command", .string " \t")]) = .error (.settings es) ∧
      ⟨"exit_command", .blankExitCommand⟩ ∈ es := by
  have full :=
    ((ofDocument_agrees (.object [("decimal_scale", .number (.finite false 5 1)),
      ("log_level", .string "debug")])).2.1 (by decide +kernel)).2
  have blank :=
    ((ofDocument_agrees (.object [("decimal_scale", .number (.finite false 5 1)),
      ("exit_command", .string " \t")])).2.1 (by decide +kernel)).1
  have hblank : HasBlankExitCommand (.object [("decimal_scale", .number (.finite false 5 1)),
      ("exit_command", .string " \t")]) :=
    ⟨" \t", rfl, List.all_eq_true.mp (by decide)⟩
  refine ⟨full ?_, ?_⟩
  · rintro ⟨e, hhalf | hhalf | hblank⟩
    · obtain ⟨s, hs, -⟩ := hhalf
      cases hs
    · obtain ⟨s, hs, -⟩ := hhalf
      cases hs
    · obtain ⟨s, hs, -⟩ := hblank
      cases hs
  · obtain ⟨es, hes, hmem⟩ := blank ⟨_, .blankExitCommand hblank⟩
    exact ⟨es, hes, (hmem _).mpr (.blankExitCommand hblank)⟩

/-- A document whose output path is half of a pair: it meets the schema and has no exit command, and it is
refused all the same. -/
theorem ofDocument_half :
    let text := "\x7b\"output_path\": \"\\ud800\"\x7d"
    let v : Json := .object [("output_path", .string [.half 0])]
    settingsSchema.accepts v = true ∧
    v.member? "exit_command" = none ∧
    ofDocument v = .error (.settings [⟨"output_path", .notText⟩]) ∧
    ofBytes (Utf8.encode text.toList) = ofDocument v := by
  refine ⟨?_, rfl, ?_, ?_⟩ <;> decide +kernel

end Settings
end Reckoner
