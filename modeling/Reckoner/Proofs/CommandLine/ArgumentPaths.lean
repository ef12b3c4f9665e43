import Reckoner.CommandLine.Arguments
import Mathlib.Tactic.Common

/-!
# Paths of arguments

A path of the arguments is a word of the command line or the part of a word that follows the name of an
option.  So whatever is true of every character of the words is true of every character of the paths; in
particular a path has no character that no word can have.

**Results.**
* `Word.within_ofText`: what a word hands on is part of it.
* `Request.within_ofTexts`: the paths of the arguments are parts of the words.
-/

namespace Reckoner
namespace CommandLine

variable {P : Char → Prop}

/-- Whether what a word hands on has characters of one kind only. -/
def Word.Within (P : Char → Prop) : Word → Prop
  | .plain text => ∀ c ∈ text.toList, P c
  | .switch _ (some value) => ∀ c ∈ value, P c
  | .glued _ rest => ∀ c ∈ rest, P c
  | _ => True

/-- Whether the paths of the arguments have characters of one kind only. -/
structure Arguments.Within (P : Char → Prop) (a : Arguments) : Prop where
  inputFile : ∀ path ∈ a.inputFile, ∀ c ∈ path.toList, P c
  output : ∀ path : String, a.output = .path path → ∀ c ∈ path.toList, P c
  config : ∀ path ∈ a.config, ∀ c ∈ path.toList, P c
  report : ∀ path ∈ a.report, ∀ c ∈ path.toList, P c

section Arguments

variable {a : Arguments}

theorem Arguments.Within.withInput
    (h : a.Within P)
    {text : String}
    (htext : ∀ c ∈ text.toList, P c) :
    { a with inputFile := some text }.Within P :=
  ⟨by simpa using htext, h.output, h.config, h.report⟩

theorem Arguments.Within.withSurplus
    (h : a.Within P) :
    { a with surplus := true }.Within P :=
  ⟨h.inputFile, h.output, h.config, h.report⟩

end Arguments

namespace Word

/-- An option hands on its value. -/
theorem within_switch
    (s : Switch)
    {value : Option (List Char)}
    (h : ∀ cs ∈ value, ∀ c ∈ cs, P c) :
    (switch s value).Within P := by
  cases value with
  | none =>
      trivial
  | some cs =>
      exact h cs rfl

theorem within_ofNamed
    (name : List Char)
    (s : Switch)
    {value : Option (List Char)}
    (h : ∀ cs ∈ value, ∀ c ∈ cs, P c) :
    (ofNamed name s value).Within P := by
  match value with
  | none | some [] =>
      simp [ofNamed, Within]
  | some (c :: cs) =>
      have hvalue := h (c :: cs) rfl
      dsimp only [ofNamed]
      split <;> exact hvalue

/-- A word that starts with a hyphen hands on a part of it, or all of it. -/
theorem within_ofOption
    {cs : List Char}
    (h : ∀ c ∈ cs, P c) :
    (ofOption cs).Within P := by
  have hvalue :
      ∀ ds ∈ (if cs.contains '=' then some ((cs.dropWhile (· != '=')).drop 1) else none),
        ∀ c ∈ ds, P c := by
    intro ds hds c hc
    split at hds
    · obtain rfl := Option.some.inj hds
      exact h c ((List.dropWhile_suffix _).subset (List.mem_of_mem_drop hc))
    · cases hds
  unfold ofOption
  dsimp only
  split
  · exact within_ofNamed _ _ hvalue
  · split
    · next w hone =>
        have hw : w ∈ [w] := List.mem_singleton_self w
        rw [← hone] at hw
        split at hw
        · obtain ⟨s, -, rfl⟩ := List.mem_map.mp hw
          exact within_switch s hvalue
        · obtain ⟨s, -, rfl⟩ := Option.map_eq_some_iff.mp (Option.mem_toList.mp hw)
          exact fun c hc => h c (List.mem_of_mem_drop hc)
    · trivial
    · split
      · rwa [Within, String.toList_ofList]
      · trivial

theorem within_ofText
    {text : String}
    (h : ∀ c ∈ text.toList, P c) :
    (ofText text).Within P := by
  unfold ofText
  split
  · next heq =>
      rw [heq] at h
      exact within_ofOption h
  · exact h

/-- So do the words of a command line. -/
theorem within_ofTexts
    {texts : List String}
    (h : ∀ text ∈ texts, ∀ c ∈ text.toList, P c) :
    ∀ w ∈ ofTexts texts, w.Within P := by
  induction texts with
  | nil =>
      simp [ofTexts]
  | cons text texts ih =>
      rw [List.forall_mem_cons] at h
      unfold ofTexts
      split
      · rw [List.forall_mem_cons, List.forall_mem_map]
        exact ⟨trivial, h.2⟩
      · rw [List.forall_mem_cons]
        exact ⟨within_ofText h.1, ih h.2⟩

end Word

namespace Request

variable {a a' : Arguments}

/-- The value of an option is no path but its own. -/
theorem within_withValue
    (ha : a.Within P)
    {s : Switch}
    {value : String}
    (hvalue : ∀ c ∈ value.toList, P c)
    (h : withValue a s value = some a') :
    a'.Within P := by
  obtain ⟨hinput, houtput, hconfig, hreport⟩ := ha
  unfold withValue at h
  split at h
  · cases s <;> cases h
    · exact ⟨hinput, by simp, hconfig, hreport⟩
    · exact ⟨hinput, houtput, by simp, hreport⟩
    · exact ⟨hinput, houtput, hconfig, by simp⟩
    · exact ⟨hinput, houtput, hconfig, hreport⟩
  · cases s with
    | output =>
        obtain rfl := Option.some.inj h
        refine ⟨hinput, fun path hpath => ?_, hconfig, hreport⟩
        obtain rfl := Batch.Destination.path.inj hpath
        exact hvalue
    | config =>
        obtain rfl := Option.some.inj h
        exact ⟨hinput, houtput, by simpa using hvalue, hreport⟩
    | report =>
        obtain rfl := Option.some.inj h
        exact ⟨hinput, houtput, hconfig, by simpa using hvalue⟩
    | logLevel =>
        obtain ⟨level, -, rfl⟩ := Option.map_eq_some_iff.mp h
        exact ⟨hinput, houtput, hconfig, hreport⟩
    | help | version =>
        cases h

/-- An option without a value asks for no run. -/
theorem immediate?_ne
    {s : Switch}
    {request : Request}
    (h : immediate? s = some request)
    (a : Arguments) :
    request ≠ .perform a := by
  cases s <;> cases h <;> simp

/-- What the remaining words ask for has paths from them and from the arguments before them. -/
theorem within_ofWords
    {words : List Word}
    (ha : a.Within P)
    (hwords : ∀ w ∈ words, w.Within P)
    (h : ofWords a words = .perform a') :
    a'.Within P := by
  fun_induction ofWords a words with
  | case1 | case10 | case12 | case14 | case16 | case19 | case20 =>
      cases h
  | case2 =>
      cases h
      exact ha
  | case3 _ _ _ _ ih =>
      rw [List.forall_mem_cons, List.forall_mem_cons] at hwords
      exact ih (ha.withInput hwords.1) hwords.2.2 h
  | case6 _ _ _ _ ih =>
      rw [List.forall_mem_cons, List.forall_mem_cons] at hwords
      exact ih (ha.withInput hwords.2.1) hwords.2.2 h
  | case4 _ text _ _ _ ih =>
      rw [List.forall_mem_cons] at hwords
      exact ih (ha.withInput hwords.1) hwords.2 h
  | case5 _ _ _ _ _ ih | case8 _ _ _ _ ih | case9 _ _ ih =>
      rw [List.forall_mem_cons] at hwords
      exact ih ha.withSurplus hwords.2 h
  | case7 _ _ _ _ ih =>
      rw [List.forall_mem_cons] at hwords
      exact ih ha hwords.2 h
  | case11 _ _ _ _ _ hrequest | case17 _ _ _ _ hrequest =>
      exact absurd h (immediate?_ne hrequest a')
  | case13 _ _ _ _ _ _ hvalue ih | case15 _ _ _ _ _ hvalue ih =>
      rw [List.forall_mem_cons] at hwords
      refine ih (within_withValue ha ?_ hvalue) hwords.2 h
      rw [String.toList_ofList]
      exact hwords.1
  | case18 _ _ _ _ _ _ hvalue ih =>
      rw [List.forall_mem_cons, List.forall_mem_cons] at hwords
      exact ih (within_withValue ha hwords.2.1 hvalue) hwords.2.2 h

/-- The paths of the arguments have no characters but those of the words. -/
theorem within_ofTexts
    {texts : List String}
    (htexts : ∀ text ∈ texts, ∀ c ∈ text.toList, P c)
    (h : ofTexts texts = .perform a) :
    a.Within P := by
  unfold ofTexts at h
  dsimp only at h
  split at h
  · cases h
  · exact within_ofWords ⟨by simp, by simp, by simp, by simp⟩ (Word.within_ofTexts htexts) h

end Request
end CommandLine
end Reckoner
