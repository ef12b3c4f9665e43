import Reckoner.Contract.Schema
import Reckoner.Proofs.Number.BinaryIntegers
import Mathlib.Tactic.Common

/-!
# Demands of schemas

A value meets a schema if it meets each keyword of it, and an object meets the schemas of members if
every member that is there meets its own.  What the simple keywords ask for is said here once, so that a
schema is read as a statement.

**Results.**
* `Schema.check_eq_ok_iff`: which values pass the check of a schema.
* `schemaViolations_eq_nil_iff`, `memberViolations_eq_nil_iff`: schemas by their keywords and members.
* `accepts_kinds_iff`: values by their kinds.
* `accepts_least_iff`, `accepts_whole_iff`: whole numbers within bounds.
* `accepts_text_iff`, `accepts_fullText_iff`, `accepts_among_iff`: texts.
* `accepts_array_iff`: arrays.
* `record_eq_nil_iff`: records, which are objects with some members and no others.
* `exactlyOne_eq_nil_iff`: values that meet one of two schemas and not the other.
-/

namespace Reckoner

/-- A value is a whole number, perhaps written with a fraction of zero. -/
inductive Json.IsWhole : Json → Int → Prop
  | integer
      (n : Int) :
      IsWhole (.integer n) n
  | number
      {x : Binary64}
      {n : Int}
      (h : x.toInt? = some n) :
      IsWhole (.number x) n

namespace Contract

section Checks

variable (schema : Schema)
variable (v : Json)

/-- A value passes a check exactly when it violates nothing. -/
theorem Schema.check_eq_ok_iff :
    schema.check v = .ok () ↔ schema.violations v = [] := by
  unfold check
  cases schema.violations v with
  | nil =>
      simp
  | cons first rest =>
      simp

theorem Schema.accepts_iff :
    schema.accepts v = true ↔ schema.violations v = [] :=
  List.isEmpty_iff

end Checks

section Keywords

variable {named : List String}
variable {v : Json}

/-- A value meets the keywords of a schema one by one. -/
theorem schemaViolations_eq_nil_iff
    (schema : List Keyword) :
    schemaViolations named schema v = [] ↔ ∀ k ∈ schema, keywordViolations named k v = [] := by
  induction schema with
  | nil =>
      simp [schemaViolations]
  | cons k rest ih =>
      rw [schemaViolations, List.append_eq_nil_iff, ih, List.forall_mem_cons]

/-- The members of an object meet their schemas one by one, where they are there. -/
theorem memberViolations_eq_nil_iff
    (schemas : List (String × Schema))
    (members : List (CodeString × Json)) :
    memberViolations schemas members = [] ↔
      ∀ m ∈ schemas, ∀ v : Json, members.lookup (m.1 : CodeString) = some v → m.2.accepts v = true := by
  induction schemas with
  | nil =>
      simp [memberViolations]
  | cons m rest ih =>
      obtain ⟨name, schema⟩ := m
      rw [memberViolations, List.append_eq_nil_iff, ih, List.forall_mem_cons]
      refine and_congr_left fun _ => ?_
      cases members.lookup (name : CodeString) with
      | none =>
          simp
      | some v =>
          simp [Schema.accepts_iff, Schema.violations]

/-- A value meets a demand on its kind if one of the kinds covers it. -/
theorem kinds_eq_nil_iff
    (ks : List Kind) :
    keywordViolations named (.kinds ks) v = [] ↔ ∃ k ∈ ks, k.covers v = true := by
  simp [keywordViolations]

theorem accepts_kinds_iff
    (ks : List Kind) :
    Schema.accepts [.kinds ks] v = true ↔ ∃ k ∈ ks, k.covers v = true := by
  rw [Schema.accepts_iff, Schema.violations, schemaViolations_eq_nil_iff, List.forall_mem_singleton,
    kinds_eq_nil_iff]

theorem covers_object_iff :
    Kind.object.covers v = true ↔ ∃ members : List (CodeString × Json), v = .object members := by
  cases v <;> simp [Kind.covers]

theorem covers_string_iff :
    Kind.string.covers v = true ↔ ∃ s : CodeString, v = .string s := by
  cases v <;> simp [Kind.covers]

theorem covers_null_iff :
    Kind.null.covers v = true ↔ v = .null := by
  cases v <;> simp [Kind.covers]

theorem covers_integer_iff :
    Kind.integer.covers v = true ↔ ∃ n : Int, v.IsWhole n := by
  constructor
  · intro h
    cases v with
    | integer n =>
        exact ⟨n, .integer n⟩
    | number x =>
        obtain ⟨n, hn⟩ := Option.isSome_iff_exists.mp h
        exact ⟨n, .number hn⟩
    | null | boolean | string | array | object =>
        cases h
  · rintro ⟨n, hn⟩
    cases hn with
    | integer =>
        rfl
    | number h =>
        exact Option.isSome_iff_exists.mpr ⟨n, h⟩

theorem isBelow_iff
    {n : Int}
    (h : v.IsWhole n)
    (bound : Int) :
    isBelow bound v = true ↔ n < bound := by
  cases h with
  | integer =>
      exact decide_eq_true_iff
  | number h =>
      exact Binary64.lessThanInt_iff h bound

theorem isAbove_iff
    {n : Int}
    (h : v.IsWhole n)
    (bound : Int) :
    isAbove bound v = true ↔ bound < n := by
  cases h with
  | integer =>
      exact decide_eq_true_iff
  | number h =>
      exact Binary64.greaterThanInt_iff h bound

/-- A whole number from a bound on. -/
theorem accepts_least_iff
    (low : Int) :
    Schema.accepts [.kinds [.integer], .minimum low] v = true ↔
      ∃ n : Int, v.IsWhole n ∧ low ≤ n := by
  have hkeywords :
      Schema.accepts [.kinds [.integer], .minimum low] v = true ↔
        Kind.integer.covers v = true ∧ ¬ isBelow low v = true := by
    simp [Schema.accepts_iff, Schema.violations, schemaViolations_eq_nil_iff, keywordViolations]
  rw [hkeywords, covers_integer_iff]
  constructor
  · rintro ⟨⟨n, hn⟩, hlow⟩
    rw [isBelow_iff hn, Int.not_lt] at hlow
    exact ⟨n, hn, hlow⟩
  · rintro ⟨n, hn, hlow⟩
    refine ⟨⟨n, hn⟩, ?_⟩
    rwa [isBelow_iff hn, Int.not_lt]

/-- A whole number within bounds. -/
theorem accepts_whole_iff
    (low high : Int) :
    Schema.accepts [.kinds [.integer], .minimum low, .maximum high] v = true ↔
      ∃ n : Int, v.IsWhole n ∧ low ≤ n ∧ n ≤ high := by
  have hkeywords :
      Schema.accepts [.kinds [.integer], .minimum low, .maximum high] v = true ↔
        Schema.accepts [.kinds [.integer], .minimum low] v = true ∧ ¬ isAbove high v = true := by
    simp [Schema.accepts_iff, Schema.violations, schemaViolations_eq_nil_iff, keywordViolations,
      and_assoc]
  rw [hkeywords, accepts_least_iff]
  constructor
  · rintro ⟨⟨n, hn, hlow⟩, hhigh⟩
    rw [isAbove_iff hn, Int.not_lt] at hhigh
    exact ⟨n, hn, hlow, hhigh⟩
  · rintro ⟨n, hn, hlow, hhigh⟩
    refine ⟨⟨n, hn, hlow⟩, ?_⟩
    rwa [isAbove_iff hn, Int.not_lt]

/-- A string. -/
theorem accepts_text_iff :
    Schema.accepts [.kinds [.string]] v = true ↔ ∃ s : CodeString, v = .string s := by
  simp [accepts_kinds_iff, covers_string_iff]

/-- A string with at least one code point. -/
theorem accepts_fullText_iff :
    Schema.accepts [.kinds [.string], .minLength 1] v = true ↔
      ∃ s : CodeString, v = .string s ∧ s ≠ [] := by
  cases v <;>
    simp [Schema.accepts_iff, Schema.violations, schemaViolations_eq_nil_iff, keywordViolations,
      Kind.covers]

/-- One of some texts. -/
theorem accepts_among_iff
    (texts : List String) :
    Schema.accepts [.kinds [.string], .among texts] v = true ↔
      ∃ s ∈ texts, v = .string s := by
  cases v <;>
    simp [Schema.accepts_iff, Schema.violations, schemaViolations_eq_nil_iff, keywordViolations,
      Kind.covers]

/-- A string or nothing. -/
theorem accepts_textOrNull_iff :
    Schema.accepts [.kinds [.string, .null]] v = true ↔ (∃ s : CodeString, v = .string s) ∨ v = .null := by
  simp [accepts_kinds_iff, covers_string_iff, covers_null_iff]

theorem accepts_null_iff :
    Schema.accepts [.kinds [.null]] v = true ↔ v = .null := by
  simp [accepts_kinds_iff, covers_null_iff]

/-- What is so for every item of an array is so for every item with its place. -/
theorem forall_zipIdx_iff
    {α : Type}
    {P : α → Prop}
    (items : List α) :
    (∀ (item : α) (i : Nat), (item, i) ∈ items.zipIdx → P item) ↔ ∀ item ∈ items, P item := by
  constructor
  · intro h item hitem
    obtain ⟨i, hi, rfl⟩ := List.getElem_of_mem hitem
    exact h items[i] i (by simp [List.mem_zipIdx_iff_getElem?])
  · intro h item i hitem
    exact h item (List.fst_mem_of_mem_zipIdx hitem)

theorem items_eq_nil_iff
    (named : List String)
    (schema : Schema)
    (items : List Json) :
    keywordViolations named (.items schema) (.array items) = [] ↔
      ∀ item ∈ items, schema.accepts item = true := by
  have hitems :
      keywordViolations named (.items schema) (.array items) = [] ↔
        ∀ (item : Json) (i : Nat), (item, i) ∈ items.zipIdx → schema.accepts item = true := by
    simp [keywordViolations, Schema.accepts_iff, Schema.violations]
  rw [hitems, forall_zipIdx_iff]

/-- An array of values that all meet a schema. -/
theorem accepts_array_iff
    (schema : Schema) :
    Schema.accepts [.kinds [.array], .items schema] v = true ↔
      ∃ items : List Json, v = .array items ∧ ∀ item ∈ items, schema.accepts item = true := by
  rw [Schema.accepts_iff, Schema.violations, schemaViolations_eq_nil_iff]
  simp only [List.forall_mem_cons]
  cases v with
  | array items =>
      rw [items_eq_nil_iff]
      simp [keywordViolations, Kind.covers]
  | null | boolean | integer | number | string | object =>
      simp [keywordViolations, Kind.covers]

end Keywords

section Records

/-- The demands on a record: an object that has the named members and no others, each of which meets
its schema. -/
def record
    (fields : List (String × Schema)) : Schema :=
  [.kinds [.object], .noOthers, .required (fields.map Prod.fst), .members fields]

/-- Whether an object is a record of these fields. -/
structure IsRecord
    (fields : List (String × Schema))
    (members : List (CodeString × Json)) : Prop where
  names :
    ∀ name : CodeString,
      name ∈ members.map Prod.fst ↔ ∃ known ∈ fields.map Prod.fst, name = .ofString known
  values :
    ∀ f ∈ fields, ∃ v : Json, members.lookup (f.1 : CodeString) = some v ∧ f.2.accepts v = true

variable {fields : List (String × Schema)}
variable {members : List (CodeString × Json)}

theorem isSome_lookup_iff
    (name : CodeString) :
    (members.lookup name).isSome = true ↔ name ∈ members.map Prod.fst := by
  simp [List.lookup_isSome_iff]

theorem noOthers_eq_nil_iff
    (named : List String) :
    keywordViolations named .noOthers (.object members) = [] ↔
      ∀ name ∈ members.map Prod.fst, ∃ known ∈ named, name = .ofString known := by
  simp only [keywordViolations]
  rw [ite_eq_left_iff]
  simp [@eq_comm CodeString]

theorem required_eq_nil_iff
    (named names : List String) :
    keywordViolations named (.required names) (.object members) = [] ↔
      ∀ name ∈ names, (name : CodeString) ∈ members.map Prod.fst := by
  simp only [keywordViolations, List.map_eq_nil_iff, List.filter_eq_nil_iff, ← isSome_lookup_iff]
  simp

/-- A value meets the demands on a record exactly if it is one. -/
theorem record_eq_nil_iff
    (v : Json) :
    (∀ k ∈ record fields, keywordViolations (fields.map Prod.fst) k v = []) ↔
      ∃ members : List (CodeString × Json), v = .object members ∧ IsRecord fields members := by
  simp only [record, List.forall_mem_cons, kinds_eq_nil_iff, List.mem_singleton, forall_eq,
    exists_eq_left, covers_object_iff]
  constructor
  · rintro ⟨⟨members, rfl⟩, hothers, hrequired, hmembers⟩
    rw [noOthers_eq_nil_iff] at hothers
    rw [required_eq_nil_iff] at hrequired
    rw [keywordViolations, memberViolations_eq_nil_iff] at hmembers
    refine ⟨members, rfl, fun name => ⟨hothers name, ?_⟩, ?_⟩
    · rintro ⟨known, hknown, rfl⟩
      exact hrequired known hknown
    · intro f hf
      obtain ⟨v, hv⟩ := Option.isSome_iff_exists.mp
        ((isSome_lookup_iff (f.1 : CodeString)).mpr (hrequired f.1 (List.mem_map_of_mem hf)))
      exact ⟨v, hv, hmembers f hf v hv⟩
  · rintro ⟨members, rfl, hnames, hvalues⟩
    refine ⟨⟨members, rfl⟩, ?_, ?_, ?_⟩
    · rw [noOthers_eq_nil_iff]
      exact fun name => (hnames name).mp
    · rw [required_eq_nil_iff]
      exact fun known hknown => (hnames known).mpr ⟨known, hknown, rfl⟩
    · rw [keywordViolations, memberViolations_eq_nil_iff]
      intro f hf v hv
      obtain ⟨w, hw, haccepts⟩ := hvalues f hf
      rw [hv] at hw
      cases hw
      exact haccepts

/-- Of two schemas a value meets exactly one if it meets one and not the other. -/
theorem exactlyOne_eq_nil_iff
    (named : List String)
    (a b : Schema)
    (v : Json) :
    keywordViolations named (.exactlyOne [a, b]) v = [] ↔
      ¬ (a.accepts v = true ↔ b.accepts v = true) := by
  have hcount :
      countMet [a, b] v =
        (if a.accepts v = true then 1 else 0) + (if b.accepts v = true then 1 else 0) := by
    rfl
  simp only [keywordViolations, hcount]
  by_cases ha : a.accepts v = true <;> by_cases hb : b.accepts v = true <;> simp [ha, hb]

end Records

end Contract
end Reckoner
