import Reckoner.Json.Reader
import Mathlib.Tactic.Common

/-!
# Long integers in JSON texts

A reader that allows integers of a number of digits refuses a text for an integer only where it comes to
one that has more.  A reader without such a limit never does.

**Results.**
* `readNumber_refusesLonger`: the place where the digits are counted.
* `refusesLonger_readers`: the readers of values, items and members pass its fault on and raise none of
  their own.
* `longestInteger_lt_of_load`: so the text of a file is refused for an integer beyond the limit only.
-/

namespace Reckoner
namespace Json

variable {α β : Type}
variable {longest : Option Nat}

/-- Where something is refused for an integer, this has more digits than are read. -/
def RefusesLonger (longest : Option Nat) (r : Except ReadFault α) : Prop :=
  ∀ digits : Nat, r = .error (.longInteger digits) → ∃ m ∈ longest, m < digits

theorem refusesLonger_ok
    (a : α) :
    RefusesLonger longest (.ok a) := by
  rintro digits ⟨⟩

theorem refusesLonger_malformed :
    RefusesLonger longest (.error .malformed : Except ReadFault α) := by
  rintro digits ⟨⟩

/-- A fault is passed on. -/
theorem RefusesLonger.error
    {r : Except ReadFault α}
    (h : RefusesLonger longest r)
    {f : ReadFault}
    (hf : r = .error f) :
    RefusesLonger longest (.error f : Except ReadFault β) := by
  rintro digits ⟨⟩
  exact h digits hf

theorem RefusesLonger.map
    {r : Except ReadFault α}
    (h : RefusesLonger longest r)
    (f : α → β) :
    RefusesLonger longest (r.map f) := by
  cases hr : r with
  | error g =>
      exact h.error hr
  | ok a =>
      exact refusesLonger_ok (f a)

/-- The digits of an integer are counted before it is read. -/
theorem readNumber_refusesLonger
    (cs : List Char) :
    RefusesLonger longest (readNumber longest cs) := by
  intro digits h
  unfold readNumber at h
  dsimp only at h
  split at h
  · next hlong =>
      obtain rfl := ReadFault.longInteger.inj (Except.error.inj h)
      obtain ⟨m, hm, hlt⟩ := (Option.any_eq_true _ _).mp hlong
      exact ⟨m, hm, of_decide_eq_true hlt⟩
  · split at h <;> cases h

theorem readScalar_refusesLonger
    (cs : List Char) :
    RefusesLonger longest (readScalar longest cs) := by
  unfold readScalar
  split
  · exact refusesLonger_ok _
  · exact readNumber_refusesLonger cs

/-- A string has no integers. -/
theorem readString_refusesLonger
    (cs : List Char) :
    RefusesLonger longest (readString cs) := by
  unfold readString
  split
  · exact refusesLonger_ok _
  · exact refusesLonger_malformed

section Steps

variable {fuel : Nat}

/-- A value is read with the items and the members in it. -/
theorem readValue_refusesLonger
    (hitems : ∀ cs, RefusesLonger longest (readItems longest fuel cs))
    (hmembers : ∀ cs, RefusesLonger longest (readMembers longest fuel cs))
    (cs : List Char) :
    RefusesLonger longest (readValue longest (fuel + 1) cs) := by
  rw [readValue.eq_def]
  split
  · exact refusesLonger_malformed
  · exact (readString_refusesLonger _).map _
  · next heq =>
      obtain rfl := Nat.succ.inj heq
      split
      · exact refusesLonger_ok _
      · exact (hitems _).map _
  · next heq =>
      obtain rfl := Nat.succ.inj heq
      split
      · exact refusesLonger_ok _
      · exact (hmembers _).map _
  · exact readScalar_refusesLonger _

/-- Items are read with a value and the items after it. -/
theorem readItems_refusesLonger
    (hvalue : ∀ cs, RefusesLonger longest (readValue longest fuel cs))
    (hitems : ∀ cs, RefusesLonger longest (readItems longest fuel cs))
    (cs : List Char) :
    RefusesLonger longest (readItems longest (fuel + 1) cs) := by
  rw [readItems]
  split
  · next hfault =>
      exact (hvalue cs).error hfault
  · split
    · exact refusesLonger_ok _
    · exact (hitems _).map _
    · exact refusesLonger_malformed

/-- Members are read with a name, a value and the members after it. -/
theorem readMembers_refusesLonger
    (hvalue : ∀ cs, RefusesLonger longest (readValue longest fuel cs))
    (hmembers : ∀ cs, RefusesLonger longest (readMembers longest fuel cs))
    (cs : List Char) :
    RefusesLonger longest (readMembers longest (fuel + 1) cs) := by
  rw [readMembers.eq_def]
  split
  · exact refusesLonger_malformed
  · next heq =>
      obtain rfl := Nat.succ.inj heq
      split
      · next hfault =>
          exact (readString_refusesLonger _).error hfault
      · split
        · split
          · next hfault =>
              exact (hvalue _).error hfault
          · split
            · exact refusesLonger_ok _
            · exact (hmembers _).map _
            · exact refusesLonger_malformed
        · exact refusesLonger_malformed
  · exact refusesLonger_malformed

end Steps

/-- The readers of values, items and members raise no such fault of their own. -/
theorem refusesLonger_readers
    (fuel : Nat) :
    (∀ cs, RefusesLonger longest (readValue longest fuel cs)) ∧
    (∀ cs, RefusesLonger longest (readItems longest fuel cs)) ∧
    ∀ cs, RefusesLonger longest (readMembers longest fuel cs) := by
  induction fuel with
  | zero =>
      simp [readValue, readItems, readMembers, refusesLonger_malformed]
  | succ fuel ih =>
      obtain ⟨hvalue, hitems, hmembers⟩ := ih
      exact ⟨readValue_refusesLonger hitems hmembers, readItems_refusesLonger hvalue hitems,
        readMembers_refusesLonger hvalue hmembers⟩

/-- A text with a limit on its integers is refused for an integer only if this goes beyond it. -/
theorem readWithin_refusesLonger
    (cs : List Char) :
    RefusesLonger longest (readWithin longest cs) := by
  unfold readWithin
  split
  · split
    · exact refusesLonger_ok _
    · exact refusesLonger_malformed
  · next hfault =>
      exact ((refusesLonger_readers _).1 _).error hfault

/-- The text of a file is refused for an integer only if this has more digits than are read. -/
theorem longestInteger_lt_of_load
    {cs : List Char}
    {digits : Nat}
    (h : load cs = .error (.longInteger digits)) :
    longestInteger < digits := by
  obtain ⟨m, hm, hlt⟩ := readWithin_refusesLonger cs digits h
  obtain rfl := Option.some.inj hm
  exact hlt

end Json
end Reckoner
