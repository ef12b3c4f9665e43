import Reckoner.Proofs.Expression.Grammar

/-!
# Writing implied products

The scan that writes implied products looks at two neighbouring characters at a time, so on two
joined texts it does what it does on each of them, and at the seam what the last character of the
first text asks for.

**Results.**
* `insertProductsAfter_append`: the scan over joined texts.
* `Derives.written`: the scan turns a text of the grammar into one with every product written and
  the same tree.
-/

namespace Reckoner
namespace Expression

/-- The scan over joined texts. -/
theorem insertProductsAfter_append
    (left : Char)
    (cs ds : List Char) :
    insertProductsAfter left (cs ++ ds) =
      insertProductsAfter left cs ++ insertProductsAfter (cs.getLastD left) ds := by
  induction cs generalizing left with
  | nil =>
      rfl
  | cons c cs ih =>
      rw [List.getLastD_cons, List.cons_append, insertProductsAfter, insertProductsAfter, ih c]
      split <;> simp

/-- A product is implied only after a digit or a closing parenthesis. -/
theorem insertProductsAfter_of_forall
    {left : Char}
    (h : ∀ c, impliesProduct left c = false)
    (cs : List Char) :
    insertProductsAfter left cs = insertProducts cs := by
  have hblank : ∀ c, impliesProduct ' ' c = false := by
    intro c
    simp [impliesProduct]
  cases cs with
  | nil =>
      rfl
  | cons c cs =>
      simp [insertProducts, insertProductsAfter, h c, hblank c]

/-- Between which neighbours a product is implied. -/
theorem impliesProduct_iff
    {a b : Char} :
    impliesProduct a b = true ↔
      ((a.isDigit = true ∨ a = ')') ∧ b = '(') ∨ (a = ')' ∧ b.isDigit = true) := by
  simp only [impliesProduct, Bool.or_eq_true, Bool.and_eq_true, beq_iff_eq]
  tauto

/-- Between which texts a product is implied, by their neighbouring characters. -/
theorem impliedBetween_iff
    {cs ds : List Char} :
    ImpliedBetween cs ds ↔
      ∃ a b : Char, cs.getLast? = some a ∧ ds.head? = some b ∧ impliesProduct a b = true := by
  simp only [impliesProduct_iff]
  rfl

theorem impliesProduct_opening
    (c : Char) :
    impliesProduct '(' c = false := by
  simp [impliesProduct]

theorem impliesProduct_symbol
    (op : Operator)
    (c : Char) :
    impliesProduct op.symbol c = false := by
  cases op <;> simp [impliesProduct, Operator.symbol]

theorem impliesProduct_before_closing
    (c : Char) :
    impliesProduct c ')' = false := by
  simp [impliesProduct]

theorem impliesProduct_before_symbol
    (op : Operator)
    (c : Char) :
    impliesProduct c op.symbol = false := by
  cases op <;> simp [impliesProduct, Operator.symbol]

/-- No product is implied before a star. -/
theorem ne_star_of_impliesProduct
    {a b : Char}
    (h : impliesProduct a b = true) :
    b ≠ '*' := by
  rintro rfl
  cases (impliesProduct_before_symbol .times a).symm.trans h

/-- Where there are no parentheses no product is implied. -/
theorem insertProductsAfter_of_not_mem
    {left : Char}
    (hleft : left ≠ ')')
    {cs : List Char}
    (hopening : '(' ∉ cs)
    (hclosing : ')' ∉ cs) :
    insertProductsAfter left cs = cs := by
  induction cs generalizing left with
  | nil =>
      rfl
  | cons c cs ih =>
      simp only [List.mem_cons, not_or] at hopening hclosing
      have hnone : impliesProduct left c = false := by
        simp [impliesProduct, hleft, Ne.symm hopening.1]
      have hrest := ih (Ne.symm hclosing.1) hopening.2 hclosing.2
      simp [insertProductsAfter, hnone, hrest]

/-- Between the characters of an operand no product is implied. -/
theorem insertProductsAfter_of_operandChars
    {left : Char}
    (hleft : left ≠ ')')
    {cs : List Char}
    (h : ∀ c ∈ cs, Conversion.isOperandChar c = true) :
    insertProductsAfter left cs = cs := by
  have hopening : '(' ∉ cs := fun hmem => absurd (h '(' hmem) (by decide)
  have hclosing : ')' ∉ cs := fun hmem => absurd (h ')' hmem) (by decide)
  exact insertProductsAfter_of_not_mem hleft hopening hclosing

/-- Nothing is written at an opening and a closing parenthesis around a text. -/
theorem insertProducts_group
    (cs : List Char) :
    insertProducts ('(' :: (cs ++ [')'])) = '(' :: (insertProducts cs ++ [')']) := by
  have hopen :
      insertProducts ('(' :: (cs ++ [')'])) =
        '(' :: insertProductsAfter '(' (cs ++ [')']) := by
    simp [insertProducts, insertProductsAfter, impliesProduct]
  rw [hopen, insertProductsAfter_append,
    insertProductsAfter_of_forall impliesProduct_opening]
  simp [insertProductsAfter, impliesProduct_before_closing]

/-- Nothing is written beside an operator. -/
theorem insertProducts_chain
    (op : Operator)
    (cs ds : List Char) :
    insertProducts (cs ++ op.symbol :: ds) =
      insertProducts cs ++ op.symbol :: insertProducts ds := by
  unfold insertProducts
  rw [insertProductsAfter_append, insertProductsAfter, impliesProduct_before_symbol,
    insertProductsAfter_of_forall (impliesProduct_symbol op)]
  simp [insertProducts]

/-- Where a product is implied between two texts, it is written there. -/
theorem insertProducts_implied
    {cs ds : List Char}
    (hgap : ImpliedBetween cs ds) :
    insertProducts (cs ++ ds) = insertProducts cs ++ '*' :: insertProducts ds := by
  obtain ⟨a, b, ha, hb, hab⟩ := hgap
  obtain ⟨rest, rfl⟩ : ∃ rest, ds = b :: rest :=
    List.head?_eq_some_iff.mp hb
  have hlast : cs.getLastD ' ' = a := by
    rw [List.getLastD_eq_getLast?, ha]
    rfl
  have himplied : impliesProduct a b = true := by
    rcases hab with ⟨ha' | ha', rfl⟩ | ⟨rfl, hb'⟩
    · simp [impliesProduct, ha']
    · simp [impliesProduct, ha']
    · simp [impliesProduct, hb']
  have hblank : impliesProduct ' ' b = false := by
    simp [impliesProduct]
  unfold insertProducts
  rw [insertProductsAfter_append, hlast]
  simp [insertProductsAfter, himplied, hblank]

/-- Writing the implied products of a text of the grammar changes nothing in its tree. -/
theorem Derives.written
    {leaf : List Char → Prop}
    (hleaf : ∀ cs, leaf cs → OperandRun cs)
    {level : Level} {cs : List Char} {t : Tree}
    (d : Derives leaf ImpliedBetween level cs t) :
    Derives leaf NoGap level (insertProducts cs) t := by
  induction d with
  | @numeral cs h =>
      have hsame : insertProducts cs = cs :=
        insertProductsAfter_of_operandChars (by decide) (hleaf cs h).2
      rw [hsame]
      exact .numeral h
  | group _ ih =>
      rw [insertProducts_group]
      exact .group ih
  | ofFactor _ ih =>
      exact .ofFactor ih
  | product op hop _ _ ihl ihr =>
      rw [insertProducts_chain]
      exact .product op hop ihl ihr
  | implied hgap _ _ ihl ihr =>
      rw [insertProducts_implied hgap]
      exact .product .times rfl ihl ihr
  | ofTerm _ ih =>
      exact .ofTerm ih
  | sum op hop _ _ ihl ihr =>
      rw [insertProducts_chain]
      exact .sum op hop ihl ihr

end Expression
end Reckoner
