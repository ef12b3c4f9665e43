import Mathlib.Data.List.Chain
import Reckoner.Proofs.Expression.ImpliedProducts

/-!
# Texts with every product written

The scan that writes implied products leaves a text with nothing more to write.  Such a text may lose
any of the stars that stand where a product would be implied without them, and the scan puts them back.
No two of these stars are neighbours, since each stands between characters of which none is a star, so
they may be lost independently of each other.

**Results.**
* `insertProductsAfter_eq_self_iff`: a text has every product written exactly when none is implied
  between neighbours.
* `insertProductsAfter_without`: stars that are implied are put back.
* `insertProducts_stable`: the scan changes nothing more after it, and what it writes may be left out.
-/

namespace Reckoner
namespace Expression

variable {left : Char}
variable {cs : List Char}

/-- Whether the product of two neighbours is left for the scan to write. -/
def ProductWritten (a b : Char) : Prop :=
  impliesProduct a b = false

theorem impliesProduct_star_left
    (c : Char) :
    impliesProduct '*' c = false :=
  impliesProduct_symbol .times c

theorem impliesProduct_star_right
    (c : Char) :
    impliesProduct c '*' = false :=
  impliesProduct_before_symbol .times c

/-- A text has every product written exactly when none is implied between neighbours. -/
theorem insertProductsAfter_eq_self_iff :
    insertProductsAfter left cs = cs ↔ (left :: cs).IsChain ProductWritten := by
  induction cs generalizing left with
  | nil =>
      simp [insertProductsAfter]
  | cons c cs ih =>
      rw [insertProductsAfter, List.isChain_cons_cons]
      cases h : impliesProduct left c with
      | true =>
          simp [ProductWritten, h, (ne_star_of_impliesProduct h).symm]
      | false =>
          simp [ProductWritten, h, ih]

/-- The scan leaves no product unwritten. -/
theorem isChain_insertProductsAfter
    (left : Char)
    (cs : List Char) :
    (left :: insertProductsAfter left cs).IsChain ProductWritten := by
  induction cs generalizing left with
  | nil =>
      simp [insertProductsAfter]
  | cons c cs ih =>
      rw [insertProductsAfter]
      split
      · exact .cons_cons (impliesProduct_star_right left)
          (.cons_cons (impliesProduct_star_left c) (ih c))
      · next h =>
          exact .cons_cons (Bool.eq_false_iff.mpr h) (ih c)

/-- The characters of a text except those at some places. -/
def without (dropped : Nat → Bool) : List Char → List Char
  | [] => []
  | c :: cs =>
      if dropped 0 then without (fun i => dropped (i + 1)) cs
      else c :: without (fun i => dropped (i + 1)) cs

/-- Whether a star stands at a place where a product would be implied without it. -/
def ImpliedStar (cs : List Char) (place : Nat) : Prop :=
  ∃ before after : List Char,
    cs = before ++ '*' :: after ∧
    before.length = place ∧
    ImpliedBetween before after

namespace ImpliedStar

variable {place : Nat}

theorem cons
    (h : ImpliedStar cs place)
    (c : Char) :
    ImpliedStar (c :: cs) (place + 1) := by
  obtain ⟨before, after, rfl, rfl, a, b, ha, hb⟩ := h
  refine ⟨c :: before, after, rfl, rfl, a, b, ?_, hb⟩
  rw [List.getLast?_cons, ha]
  rfl

/-- A star that does not follow the first character of a text is one of the rest. -/
theorem tail
    {c d : Char}
    (h : ImpliedStar (c :: d :: cs) (place + 2)) :
    ImpliedStar (d :: cs) (place + 1) := by
  obtain ⟨before, after, hcs, hplace, a, b, ha, hb⟩ := h
  obtain - | ⟨x, - | ⟨y, before⟩⟩ := before
  · simp at hplace
  · simp at hplace
  · obtain ⟨rfl, rfl, rfl⟩ : c = x ∧ d = y ∧ cs = before ++ '*' :: after := by
      simpa using hcs
    refine ⟨d :: before, after, rfl, by simpa using hplace, a, b, ?_, hb⟩
    rwa [List.getLast?_cons_cons] at ha

/-- A star after the first character of a text stands before a character with which the first one
implies a product. -/
theorem second
    (h : ImpliedStar (left :: cs) 1) :
    ∃ (b : Char) (rest : List Char),
      cs = '*' :: b :: rest ∧ impliesProduct left b = true := by
  obtain ⟨before, after, hcs, hplace, hgap⟩ := h
  obtain ⟨a, b, ha, hb, hab⟩ := impliedBetween_iff.mp hgap
  obtain ⟨x, rfl⟩ := List.length_eq_one_iff.mp hplace
  obtain ⟨rest, rfl⟩ := List.head?_eq_some_iff.mp hb
  obtain ⟨rfl, rfl⟩ : left = x ∧ cs = '*' :: b :: rest := by
    simpa using hcs
  obtain rfl : left = a := by
    simpa using ha
  exact ⟨b, rest, rfl, hab⟩

end ImpliedStar

/-- Stars that are implied are put back. -/
theorem insertProductsAfter_without
    {dropped : Nat → Bool}
    (hwritten : insertProductsAfter left cs = cs)
    (hdropped : ∀ place, dropped place = true → ImpliedStar (left :: cs) (place + 1)) :
    insertProductsAfter left (without dropped cs) = cs := by
  induction cs generalizing left dropped with
  | nil =>
      rfl
  | cons c cs ih =>
      rw [insertProductsAfter_eq_self_iff, List.isChain_cons_cons] at hwritten
      obtain ⟨hc, hcs⟩ := hwritten
      have hrest :
          insertProductsAfter c (without (fun i => dropped (i + 1)) cs) = cs :=
        ih (insertProductsAfter_eq_self_iff.mpr hcs) fun place h => (hdropped _ h).tail
      cases hfirst : dropped 0 with
      | false =>
          rw [without, hfirst, if_neg Bool.false_ne_true, insertProductsAfter, hc,
            if_neg Bool.false_ne_true, hrest]
      | true =>
          obtain ⟨b, rest, hstar, hb⟩ := (hdropped 0 hfirst).second
          obtain ⟨rfl, rfl⟩ : c = '*' ∧ cs = b :: rest := by
            simpa using hstar
          -- the neighbour of a star that is lost is none itself, so it stays
          have hkept : dropped 1 = false := by
            by_contra hlost
            obtain ⟨d, rest', hstar', -⟩ := (hdropped 1 (by simpa using hlost)).tail.second
            exact ne_star_of_impliesProduct hb (List.cons.inj hstar').1
          rw [without, hfirst, if_pos rfl]
          rw [without, hkept, if_neg Bool.false_ne_true] at hrest ⊢
          rw [insertProductsAfter, impliesProduct_star_left, if_neg Bool.false_ne_true,
            List.cons.injEq] at hrest
          rw [insertProductsAfter, hb, if_pos rfl, hrest.2]

/-- An evaluation sees a text with its implied products written. -/
theorem evaluate_eq_of_insertProducts
    {ds : List Char}
    (h : insertProducts cs = insertProducts ds)
    (p : Precision) :
    evaluate p cs = evaluate p ds := by
  rw [evaluate, evaluate, h]

/-- The scan that writes implied products changes nothing more after it.  A text that it leaves as it is
may lose any of the stars that stand where a product would be implied without them: the scan puts them
back, so an evaluation does not see the difference. -/
theorem insertProducts_stable
    (cs : List Char) :
    insertProducts (insertProducts cs) = insertProducts cs ∧
    (insertProducts cs = cs →
      ∀ dropped : Nat → Bool,
        (∀ place, dropped place = true → ImpliedStar cs place) →
          insertProducts (without dropped cs) = cs ∧
          ∀ p : Precision, evaluate p (without dropped cs) = evaluate p cs) := by
  refine ⟨insertProductsAfter_eq_self_iff.mpr (isChain_insertProductsAfter ' ' cs), ?_⟩
  intro hwritten dropped hdropped
  have hback : insertProducts (without dropped cs) = cs :=
    insertProductsAfter_without hwritten fun place h => (hdropped place h).cons ' '
  exact ⟨hback, evaluate_eq_of_insertProducts (hback.trans hwritten.symm)⟩

/-- Two of three stars are lost that have the same operands for neighbours. -/
theorem insertProducts_stable_overlapping :
    insertProducts "(2)*7*(8)*(9)".toList = "(2)*7*(8)*(9)".toList ∧
    (∀ place, (place == 3 || place == 5) = true → ImpliedStar "(2)*7*(8)*(9)".toList place) ∧
    insertProducts "(2)7(8)*(9)".toList = "(2)*7*(8)*(9)".toList ∧
    evaluate {} "(2)7(8)*(9)".toList = evaluate {} "(2)*7*(8)*(9)".toList := by
  have hwritten : insertProducts "(2)*7*(8)*(9)".toList = "(2)*7*(8)*(9)".toList := by
    decide
  have hdropped :
      ∀ place, (place == 3 || place == 5) = true →
        ImpliedStar "(2)*7*(8)*(9)".toList place := by
    intro place hplace
    obtain rfl | rfl : place = 3 ∨ place = 5 := by
      simpa using hplace
    · exact ⟨"(2)".toList, "7*(8)*(9)".toList, by decide, by decide, ')', '7', by decide⟩
    · exact ⟨"(2)*7".toList, "(8)*(9)".toList, by decide, by decide, '7', '(', by decide⟩
  have hback :=
    (insertProducts_stable "(2)*7*(8)*(9)".toList).2 hwritten
      (fun place => place == 3 || place == 5) hdropped
  have hlost :
      without (fun place => place == 3 || place == 5) "(2)*7*(8)*(9)".toList =
        "(2)7(8)*(9)".toList := by
    decide
  rw [hlost] at hback
  exact ⟨hwritten, hdropped, hback.1, hback.2 {}⟩

end Expression
end Reckoner
