import Reckoner.Proofs.Expression.Conservation
import Reckoner.Proofs.Expression.ExactEvaluation
import Reckoner.Proofs.Expression.FailureCauses
import Reckoner.Proofs.Expression.OperandPlaces
import Reckoner.Proofs.Number.DecimalText

/-!
# Reading the texts of values

The text of a value is itself an expression, if the value is not negative: a numeral, or a quotient of
two.  An exact value comes back from it as it was.  An approximate one comes back as the same number,
approximate or exact after the places that its text has, and if exact, then within the range of
rationals only.  The grammar has no signs, so the text of a negative value is no expression, and
reading it fails.

**Results.**
* `Rational.sentence_text`, `Rational.evalExact_tree`: the text of a rational as an expression.
* `evaluate_numeral`: a numeral as an expression.
* `evaluate_sign`: a text of numbers that starts with a sign has no value.
* `evaluate_text`: the evaluation of the text of a value.
-/

namespace Reckoner

open Expression

namespace Rational

/-- A rational is its number. -/
theorem toRat_injective
    {q r : Rational}
    (h : q.toRat = r.toRat) :
    q = r := by
  obtain ⟨n, d, hd, hreduced, hfits⟩ := q
  obtain ⟨n', d', hd', hreduced', hfits'⟩ := r
  have hnum : n = n' := congrArg Rat.num h
  have hden : d = d' := congrArg Rat.den h
  subst hnum hden
  rfl

section Text

variable {q : Rational}

/-- The operations that the text of a rational writes. -/
def tree (q : Rational) : Tree :=
  if q.den = 1 then .numeral (Nat.toDigits 10 q.num.toNat)
  else .operation .dividedBy (.numeral (Nat.toDigits 10 q.num.toNat))
    (.numeral (Nat.toDigits 10 q.den))

theorem isLiteral_toDigits
    (n : Nat) :
    Numeral.IsLiteral (Nat.toDigits 10 n) :=
  .integer Nat.toDigits_ne_nil (Numeral.digits_toDigits n)

theorem toRat_toDigits
    (n : Nat) :
    Numeral.toRat (Nat.toDigits 10 n) = n := by
  rw [Numeral.toRat_of_digits (Numeral.digits_toDigits n), Numeral.digitsValue_toDigits]

theorem toList_repr_of_nonneg
    {n : Int}
    (h : 0 ≤ n) :
    n.repr.toList = Nat.toDigits 10 n.toNat := by
  rw [← Numeral.toList_repr_natCast, Int.toNat_of_nonneg h]

/-- The text of a rational that is not negative is an expression. -/
theorem sentence_text
    (h : 0 ≤ q.num) :
    Sentence .expression q.text.toList q.tree := by
  have numeral :
      ∀ n : Nat, Sentence .factor (Nat.toDigits 10 n) (.numeral (Nat.toDigits 10 n)) :=
    fun n => .numeral (isLiteral_toDigits n)
  rw [toList_text, toList_repr_of_nonneg h, tree]
  split
  · rw [List.append_nil]
    exact .ofTerm (.ofFactor (numeral _))
  · exact .ofTerm (.product .dividedBy rfl (.ofFactor (numeral q.num.toNat)) (numeral q.den))

/-- Its numerals have no places. -/
theorem fraction_of_mem_tree
    {cs : List Char}
    (h : cs ∈ q.tree.numerals) :
    Numeral.fraction cs = [] := by
  have hdigits : ∃ n : Nat, cs = Nat.toDigits 10 n := by
    unfold tree at h
    split at h
    · exact ⟨_, List.mem_singleton.mp h⟩
    · rcases List.mem_append.mp h with h | h
      · exact ⟨_, List.mem_singleton.mp h⟩
      · exact ⟨_, List.mem_singleton.mp h⟩
  obtain ⟨n, rfl⟩ := hdigits
  exact Numeral.fraction_of_digits (Numeral.digits_toDigits n)

/-- A natural number of a word is read from its digits. -/
theorem toRational_toDigits
    {n : Nat}
    (h : (n : Int) ≤ greatestWord) :
    ∃ r : Rational, Numeral.toRational (Nat.toDigits 10 n) = .ok r ∧ r.toRat = n := by
  have hfits : FitsWords (n : ℚ).num (n : ℚ).den := by
    rw [Rat.num_natCast, Rat.den_natCast]
    exact ⟨le_trans (by decide) (Int.natCast_nonneg n), h, by decide⟩
  have hlimit : ¬ Numeral.BeyondText (Nat.toDigits 10 n) := by
    refine Numeral.not_beyondText ?_
    rw [Numeral.fraction_of_digits (Numeral.digits_toDigits n)]
    exact Nat.zero_le _
  rw [← toRat_toDigits] at hfits ⊢
  rw [Numeral.toRational_of_fits (isLiteral_toDigits n) hlimit hfits]
  exact ofRat_of_fits hfits

/-- The text of a rational that is not negative writes the rational. -/
theorem evalExact_tree
    (h : 0 ≤ q.num) :
    q.tree.evalExact = .ok q := by
  have hnum : ((q.num.toNat : Nat) : ℚ) = q.num := by
    rw [← Int.cast_natCast, Int.toNat_of_nonneg h]
  obtain ⟨a, ha, hax⟩ := toRational_toDigits (n := q.num.toNat) (by
    rw [Int.toNat_of_nonneg h]
    exact q.fits.2.1)
  obtain ⟨b, hb, hbx⟩ := toRational_toDigits q.fits.2.2
  unfold tree
  split
  · next hone =>
      have hsame : a = q :=
        toRat_injective (by rw [hax, hnum, toRat_eq_div, hone, Nat.cast_one, div_one])
      rw [Tree.evalExact, ha, hsame]
  · have hdivisor : ¬ (Operator.dividedBy = .dividedBy ∧ b.toRat = 0) := by
      rw [hbx]
      exact fun hzero => q.den_ne_zero hzero.2
    simp only [Tree.evalExact, ha, hb]
    rw [Operator.exact_eq_ofRat, if_neg hdivisor, hax, hbx, hnum]
    show ofRat ((q.num : ℚ) / q.den) = .ok q
    rw [← toRat_eq_div]
    exact dif_pos q.fits

end Text

end Rational

namespace Expression

section Signs

/-- The text of a negative number is a sign and its literals. -/
theorem literals_sign
    (cs : List Char) :
    literals ('-' :: cs) = literals cs :=
  literals_append_boundary (c := '-') (by decide) [] cs

/-- Digits alone have one literal. -/
theorem eq_of_mem_literals_digits
    {cs ds : List Char}
    (h : Numeral.Digits cs)
    (hds : ds ∈ literals cs) :
    ds = cs := by
  rw [literals_of_operandChars fun c hc => isOperandChar_of_isDigit (h c hc)] at hds
  exact List.mem_singleton.mp (List.mem_of_mem_filter hds)

/-- The text of a negative rational is a sign and one or two literals of digits. -/
theorem sign_rational_text
    {q : Rational}
    (h : q.toRat < 0) :
    ∃ cs : List Char,
      q.text.toList = '-' :: cs ∧ ∀ ds ∈ literals cs, Numeral.Digits ds := by
  have hnum : q.num < 0 := by
    rw [← Rational.num_toRat]
    exact Rat.num_neg.mpr h
  obtain ⟨m, hm⟩ := Int.eq_negSucc_of_lt_zero hnum
  rw [Rational.toList_text, hm, Numeral.toList_repr_negSucc, List.cons_append]
  refine ⟨_, rfl, ?_⟩
  have hdigits : ∀ {n : Nat} {ds : List Char}, ds ∈ literals (Nat.toDigits 10 n) → Numeral.Digits ds := by
    intro n ds hds
    rw [eq_of_mem_literals_digits (Numeral.digits_toDigits n) hds]
    exact Numeral.digits_toDigits n
  intro ds hds
  split at hds
  · rw [List.append_nil] at hds
    exact hdigits hds
  · rw [literals_append_boundary (by decide)] at hds
    rcases List.mem_append.mp hds with hds | hds <;> exact hdigits hds

/-- The text of a negative decimal is a sign and one literal. -/
theorem sign_decimal_text
    {d : Decimal}
    (h : d.toRat < 0) :
    ∃ cs : List Char,
      d.text.toList = '-' :: cs ∧ Numeral.IsLiteral cs ∧ ∀ ds ∈ literals cs, ds = cs := by
  obtain ⟨cs, hcs, hliteral⟩ := Decimal.exists_isLiteral_of_neg h
  refine ⟨cs, hcs, hliteral, ?_⟩
  intro ds hds
  rw [literals_of_operandChars (operandRun_of_isLiteral hliteral).2] at hds
  exact List.mem_singleton.mp (List.mem_of_mem_filter hds)

end Signs

variable {p : Precision}

/-- The text of a rational that is not negative evaluates to the rational. -/
theorem evaluate_rational_text
    (hscale : 1 ≤ p.scale)
    (hplaces : 0 ≤ p.exactPlaces)
    {q : Rational}
    (h : 0 ≤ q.num) :
    (evaluate p q.text.toList).result =
      .ok ⟨.exact q, p.scale.toNat, Int.lt_toNat.mpr hscale⟩ := by
  have hsentence := Rational.sentence_text h
  rw [evaluate_of_sentence hsentence]
  dsimp only
  rw [Tree.eval_eq_evalExact hscale (isNumeral_of_mem_numerals hsentence), Rational.evalExact_tree h]
  · rfl
  · intro cs hcs
    rw [Rational.fraction_of_mem_tree hcs]
    exact hplaces

/-- A numeral alone evaluates to its value. -/
theorem evaluate_numeral
    (hscale : 1 ≤ p.scale)
    {cs : List Char}
    (h : Numeral.IsLiteral cs) :
    (evaluate p cs).result =
      if p.exactPlaces < ((Numeral.fraction cs).length : Int) then
        .ok ⟨.approximate (Numeral.toDecimal cs), p.scale.toNat, Int.lt_toNat.mpr hscale⟩
      else (Numeral.toRational cs).map fun q =>
        ⟨.exact q, p.scale.toNat, Int.lt_toNat.mpr hscale⟩ := by
  have hsentence : Sentence .expression cs (.numeral cs) :=
    .ofTerm (.ofFactor (.numeral h))
  have hnumeral : Numeral.isNumeral cs = true :=
    Tree.forall_numerals_numeral.mp (isNumeral_of_mem_numerals hsentence)
  rw [evaluate_of_sentence hsentence]
  exact Numeral.toValue_of_isNumeral hscale hnumeral

/-- An exact numeral has a value if its number fits and it does not meet the limit of texts. -/
theorem evaluate_exact_numeral
    (hscale : 1 ≤ p.scale)
    {cs : List Char}
    (h : Numeral.IsLiteral cs)
    (hexact : ¬ p.exactPlaces < ((Numeral.fraction cs).length : Int)) :
    (¬ Numeral.BeyondText cs →
      FitsWords (Numeral.toRat cs).num (Numeral.toRat cs).den →
      ∃ q : Rational,
        (evaluate p cs).result = .ok ⟨.exact q, p.scale.toNat, Int.lt_toNat.mpr hscale⟩ ∧
        q.toRat = Numeral.toRat cs) ∧
    (¬ FitsWords (Numeral.toRat cs).num (Numeral.toRat cs).den →
      ∃ f : Failure,
        (evaluate p cs).result = .error f ∧
        f.kind = if Numeral.BeyondText cs then .invalidArgument else .fractionOverflow) := by
  have hmeets := Tree.meets_numeral h
  rw [evaluate_numeral hscale h, if_neg hexact]
  constructor
  · intro hlimit hfits
    rw [Tree.offence?_numeral hlimit, if_pos hfits] at hmeets
    obtain ⟨q, hq, hx⟩ := hmeets
    exact ⟨q, by rw [hq]; rfl, hx⟩
  · intro hfits
    by_cases hlimit : Numeral.BeyondText cs
    · rw [Tree.offence?_of_beyondText hlimit] at hmeets
      obtain ⟨f, hf, hk⟩ := hmeets
      exact ⟨f, by rw [hf]; rfl, by rw [hk, if_pos hlimit]⟩
    · rw [Tree.offence?_numeral hlimit, if_neg hfits] at hmeets
      obtain ⟨f, hf, hk⟩ := hmeets
      exact ⟨f, by rw [hf]; rfl, by rw [hk, if_neg hlimit]⟩

/-- The text of a decimal that is not negative evaluates to its number. -/
theorem evaluate_decimal_text
    (hscale : 1 ≤ p.scale)
    {d : Decimal}
    (h : 0 ≤ d.toRat) :
    (p.exactPlaces < ((Numeral.fraction d.text.toList).length : Int) →
      (∃ e : Decimal,
        (evaluate p d.text.toList).result =
          .ok ⟨.approximate e, p.scale.toNat, Int.lt_toNat.mpr hscale⟩ ∧
        e.toRat = d.toRat) ∧
      (calculate p d.text.toList).result = .ok d.text) ∧
    (((Numeral.fraction d.text.toList).length : Int) ≤ p.exactPlaces →
      (FitsWords d.toRat.num d.toRat.den →
        ∃ q : Rational,
          (evaluate p d.text.toList).result =
            .ok ⟨.exact q, p.scale.toNat, Int.lt_toNat.mpr hscale⟩ ∧
          q.toRat = d.toRat) ∧
      (¬ FitsWords d.toRat.num d.toRat.den →
        ∃ f : Failure,
          (evaluate p d.text.toList).result = .error f ∧
          f.kind =
            if Numeral.BeyondText d.text.toList then .invalidArgument else .fractionOverflow)) := by
  have hliteral := Decimal.isLiteral_text h
  have hnumber := Decimal.toRat_text h
  refine ⟨?_, ?_⟩
  · intro hfine
    have hvalue := evaluate_numeral hscale hliteral
    rw [if_pos hfine] at hvalue
    refine ⟨⟨_, hvalue, ?_⟩, ?_⟩
    · rw [Numeral.toRat_toDecimal hliteral, hnumber]
    · refine (congrArg (Except.map Value.text) hvalue).trans ?_
      exact congrArg Except.ok (Decimal.text_toDecimal_text h)
  · intro hexact
    obtain ⟨hvalue, hfailure⟩ := evaluate_exact_numeral hscale hliteral (Int.not_lt.mpr hexact)
    rw [← hnumber]
    refine ⟨?_, hfailure⟩
    -- Without final zeros a text whose number fits is short.
    intro hfits
    exact hvalue
      (Numeral.not_beyondText_of_last hliteral (Decimal.getLast?_fraction_text h) hfits) hfits

section Signs

variable {cs : List Char}

/-- A text of the grammar starts with an operand or an opening parenthesis. -/
theorem Derives.head
    {leaf : List Char → Prop}
    {gap : List Char → List Char → Prop}
    (hleaf : ∀ cs, leaf cs → OperandRun cs)
    {level : Level} {t : Tree}
    (d : Derives leaf gap level cs t) :
    ∃ c rest, cs = c :: rest ∧ (Conversion.isOperandChar c = true ∨ c = '(') := by
  induction d with
  | @numeral cs h =>
      obtain ⟨hne, hchars⟩ := hleaf cs h
      obtain ⟨c, rest, rfl⟩ := List.exists_cons_of_ne_nil hne
      exact ⟨c, rest, rfl, .inl (hchars c (by simp))⟩
  | group =>
      exact ⟨_, _, rfl, .inr rfl⟩
  | ofFactor _ ih | ofTerm _ ih =>
      exact ih
  | product _ _ _ _ ih | implied _ _ _ ih | sum _ _ _ _ ih =>
      obtain ⟨c, rest, rfl, hc⟩ := ih
      exact ⟨c, _, rfl, hc⟩

/-- In the text of a number there are no parentheses, so nothing is implied. -/
theorem insertProducts_of_isNumberText
    (h : IsNumberText cs) :
    insertProducts cs = cs :=
  insertProductsAfter_of_not_mem (by decide) (h.not_mem (by decide)) (h.not_mem (by decide))

/-- All characters of numbers have a meaning. -/
theorem isMeaningful_of_isNumberChar
    {c : Char}
    (h : isNumberChar c = true) :
    isMeaningful c = true := by
  simp only [isNumberChar, Bool.or_eq_true, beq_iff_eq] at h
  rcases h with ((hdigit | rfl) | rfl) | rfl
  · simp [isMeaningful, isOperandChar_of_isDigit hdigit]
  · decide
  · decide
  · decide

/-- Operands stand apart where there are no parentheses. -/
theorem operandsApart_of_isNumberText
    (h : IsNumberText cs) :
    OperandsApart cs := by
  rw [OperandsApart, List.isChain_iff_forall_rel_of_append_cons_cons]
  rintro left right before after rfl
  have hleft : left ≠ ')' := by
    rintro rfl
    exact h.not_mem (c := ')') (by decide) (by simp)
  have hright : right ≠ '(' := by
    rintro rfl
    exact h.not_mem (c := '(') (by decide) (by simp)
  simp [isSeam, hleft, hright]

/-- A text of numbers has a value only if it is an expression of the grammar. -/
theorem writtenSentence_of_isNumberText
    (h : IsNumberText cs)
    {v : Value}
    (hv : (evaluate p cs).result = .ok v) :
    ∃ t : Tree, WrittenSentence .expression cs t := by
  obtain ⟨tokens, losses, htokens, hfolds, -⟩ := folds_of_evaluate hv
  rw [insertProducts_of_isNumberText h] at htokens
  have hmeaningful : ∀ c ∈ cs, isMeaningful c = true :=
    fun c hc => isMeaningful_of_isNumberChar (h c hc)
  obtain ⟨t, hsentence, rfl⟩ :=
    exists_derives_of_toPostfix hmeaningful (operandsApart_of_isNumberText h) htokens
  exact ⟨t, writtenSentence_of_folds hsentence hfolds⟩

/-- A number with a sign has no value. -/
theorem evaluate_sign
    (hscale : 1 ≤ p.scale)
    (h : IsNumberText ('-' :: cs)) :
    ∃ f : Failure,
      (evaluate p ('-' :: cs)).result = .error f ∧
      ((f.kind = .malformedExpression ∨ f.kind = .divisionByZero ∨ f.kind = .fractionOverflow) ∨
        f.kind = .invalidArgument ∧ ∃ ds ∈ literals cs, Numeral.MeetsTextLimit p ds) := by
  cases hresult : (evaluate p ('-' :: cs)).result with
  | error f =>
      refine ⟨f, rfl, (evaluate_failure_kind hscale hresult).imp_right ?_⟩
      rintro ⟨tokens, htokens, htext⟩
      obtain ⟨ds, hds, hlimit⟩ := htext.numeral
      rw [insertProducts_of_isNumberText h] at htokens
      refine ⟨htext.kind, ds, ?_, hlimit⟩
      rw [← literals_sign, ← (operandTexts_toPostfix htokens).1]
      exact List.mem_filterMap.mpr ⟨_, hds, rfl⟩
  | ok v =>
      obtain ⟨t, hsentence⟩ := writtenSentence_of_isNumberText h hresult
      obtain ⟨c, rest, heq, hc⟩ := hsentence.head fun _ => operandRun_of_isLiteral
      obtain ⟨rfl, -⟩ := List.cons.inj heq
      exact absurd hc (by decide)

/-- So the text of a negative value has none. -/
theorem evaluate_negative_text
    (hscale : 1 ≤ p.scale)
    (v : Value)
    (h : v.number.toRat < 0) :
    ∃ f : Failure,
      (evaluate p v.text.toList).result = .error f ∧
      ((f.kind = .malformedExpression ∨ f.kind = .divisionByZero ∨ f.kind = .fractionOverflow) ∨
        f.kind = .invalidArgument ∧ v.number.isExact = false ∧
          ∃ cs : List Char, v.text.toList = '-' :: cs ∧ Numeral.MeetsTextLimit p cs) := by
  have hchars := v.isNumberText
  obtain ⟨number, scale, pos⟩ := v
  cases number with
  | exact q =>
      obtain ⟨cs, hcs, hdigits⟩ := sign_rational_text h
      change q.text.toList = _ at hcs
      change IsNumberText q.text.toList at hchars
      change ∃ f, (evaluate p q.text.toList).result = _ ∧ _
      rw [hcs] at hchars ⊢
      obtain ⟨f, hf, hkind | ⟨-, ds, hds, hlimit⟩⟩ := evaluate_sign hscale hchars
      · exact ⟨f, hf, .inl hkind⟩
      · refine absurd hlimit.beyondText (Numeral.not_beyondText ?_)
        rw [Numeral.fraction_of_digits (hdigits ds hds)]
        exact Nat.zero_le _
  | approximate d =>
      obtain ⟨cs, hcs, -, hliterals⟩ := sign_decimal_text h
      change d.text.toList = _ at hcs
      change IsNumberText d.text.toList at hchars
      change ∃ f, (evaluate p d.text.toList).result = _ ∧ (_ ∨ _ ∧ _ ∧ ∃ ds, d.text.toList = _ ∧ _)
      rw [hcs] at hchars ⊢
      obtain ⟨f, hf, hkind | ⟨hkind, ds, hds, hlimit⟩⟩ := evaluate_sign hscale hchars
      · exact ⟨f, hf, .inl hkind⟩
      · exact ⟨f, hf, .inr ⟨hkind, rfl, cs, rfl, hliterals ds hds ▸ hlimit⟩⟩

end Signs

/-- The text of a value that is not negative is read back as its number.  An exact value comes back as
it is, with the scale of the precision.  An approximate value stays approximate, with the same text, if
its text has more places than are exact, and else becomes the rational of its number; if that does not
fit, it is refused for its range, or for the limit of texts where it meets it.  The text of a negative
value is never read. -/
theorem evaluate_text
    (v : Value)
    (p : Precision)
    (hscale : 1 ≤ p.scale)
    (hplaces : 0 ≤ p.exactPlaces) :
    (0 ≤ v.number.toRat →
      match v.number with
      | .exact q =>
          (evaluate p v.text.toList).result =
            .ok ⟨.exact q, p.scale.toNat, Int.lt_toNat.mpr hscale⟩ ∧
          (calculate p v.text.toList).result = .ok v.text
      | .approximate d =>
          (p.exactPlaces < ((Numeral.fraction v.text.toList).length : Int) →
            (∃ e : Decimal,
              (evaluate p v.text.toList).result =
                .ok ⟨.approximate e, p.scale.toNat, Int.lt_toNat.mpr hscale⟩ ∧
              e.toRat = d.toRat) ∧
            (calculate p v.text.toList).result = .ok v.text) ∧
          (((Numeral.fraction v.text.toList).length : Int) ≤ p.exactPlaces →
            (FitsWords d.toRat.num d.toRat.den →
              ∃ q : Rational,
                (evaluate p v.text.toList).result =
                  .ok ⟨.exact q, p.scale.toNat, Int.lt_toNat.mpr hscale⟩ ∧
                q.toRat = d.toRat) ∧
            (¬ FitsWords d.toRat.num d.toRat.den →
              ∃ f : Failure,
                (evaluate p v.text.toList).result = .error f ∧
                f.kind =
                  if Numeral.BeyondText v.text.toList then .invalidArgument
                  else .fractionOverflow))) ∧
    (v.number.toRat < 0 →
      ∃ f : Failure,
        (evaluate p v.text.toList).result = .error f ∧
        ((f.kind = .malformedExpression ∨ f.kind = .divisionByZero ∨ f.kind = .fractionOverflow) ∨
          f.kind = .invalidArgument ∧ v.number.isExact = false ∧
            ∃ cs : List Char, v.text.toList = '-' :: cs ∧ Numeral.MeetsTextLimit p cs)) := by
  refine ⟨?_, evaluate_negative_text hscale v⟩
  · obtain ⟨number, scale, pos⟩ := v
    intro h
    cases number with
    | exact q =>
        have hvalue := evaluate_rational_text hscale hplaces (Rat.num_nonneg.mpr h)
        exact ⟨hvalue, congrArg (Except.map Value.text) hvalue⟩
    | approximate d =>
        exact evaluate_decimal_text hscale h

/-- A quotient at the end of the words is read back, a decimal loses its final zeros and becomes exact,
and the least word is refused for its sign. -/
theorem evaluate_text_extremes :
    (evaluate ⟨3, 1⟩ "9223372036854775807/2".toList).result =
      .ok ⟨.exact ⟨9223372036854775807, 2, by decide, by decide, by decide⟩, 3, by decide⟩ ∧
    (∃ q : Rational,
      (evaluate ⟨3, 1⟩ "922337203685477580.5".toList).result = .ok ⟨.exact q, 3, by decide⟩ ∧
      q.toRat = Decimal.toRat ⟨false, 922337203685477580500, -3⟩) ∧
    ∃ f : Failure, (evaluate ⟨3, 1⟩ "-9223372036854775808".toList).result = .error f := by
  have quotient :=
    (evaluate_text ⟨.exact ⟨9223372036854775807, 2, by decide, by decide, by decide⟩, 7, by decide⟩
      ⟨3, 1⟩ (by decide) (by decide)).1 (by decide +kernel)
  have decimal :=
    (evaluate_text ⟨.approximate ⟨false, 922337203685477580500, -3⟩, 7, by decide⟩
      ⟨3, 1⟩ (by decide) (by decide)).1 (by decide +kernel)
  have negative :=
    (evaluate_text ⟨.exact ⟨-9223372036854775808, 1, by decide, by decide, by decide⟩, 7, by decide⟩
      ⟨3, 1⟩ (by decide) (by decide)).2 (by decide +kernel)
  obtain ⟨f, hf, -⟩ := negative
  exact ⟨quotient.1, (decimal.2 (by decide +kernel)).1 (by decide +kernel), f, hf⟩

/-- A decimal of one unit in its last place. -/
def unitDecimal (n : Nat) : Decimal :=
  ⟨false, 1, -((n + 1 : Nat) : Int)⟩

theorem toRat_unitDecimal_nonneg
    (n : Nat) :
    0 ≤ (unitDecimal n).toRat := by
  simp [unitDecimal, Decimal.toRat, Decimal.signed, zpow_nonneg]

/-- It is written with zeros before a one. -/
theorem toList_text_unitDecimal
    (n : Nat) :
    (unitDecimal n).text.toList = Numeral.fine n := by
  have hplaces : (unitDecimal n).places = n + 1 := by
    simp only [unitDecimal, Decimal.places]
    omega
  have hexponent : (unitDecimal n).exponent.toNat = 0 := by
    simp only [unitDecimal]
    omega
  have hcoefficient :
      (unitDecimal n).coefficient * tenPow (unitDecimal n).exponent.toNat =
        Numeral.digitsValue (Nat.toDigits 10 0 ++ (List.replicate n '0' ++ ['1'])) := by
    have hone : Numeral.digitsValue ['1'] = 1 := rfl
    have hzero : Numeral.digitsValue (Nat.toDigits 10 0) = 0 := rfl
    rw [hexponent, Numeral.digitsValue_append, Numeral.digitsValue_append,
      Numeral.digitsValue_replicate_zero, hone, hzero, Nat.zero_mul, Nat.zero_mul]
    rfl
  have hlength : n + 1 = (List.replicate n '0' ++ ['1']).length := by
    simp
  rw [Decimal.toList_text (toRat_unitDecimal_nonneg n), hplaces, hcoefficient, hlength,
    Decimal.plain_eq_of_places Numeral.digits_fine (by simp)]
  simp [Numeral.fine, Nat.toDigits_of_lt_base]

/-- With thousands of places, if they are all exact, its text is not read.  The number does not fit, but
this is not what it fails for. -/
theorem evaluate_unitDecimal
    {n : Nat}
    (hlong : longestInteger ≤ n + 1)
    (hscale : 1 ≤ p.scale)
    (hexact : ((n + 1 : Nat) : Int) ≤ p.exactPlaces) :
    0 ≤ (unitDecimal n).toRat ∧
      ((Numeral.fraction (unitDecimal n).text.toList).length : Int) ≤ p.exactPlaces ∧
      ¬ FitsWords (unitDecimal n).toRat.num (unitDecimal n).toRat.den ∧
      ∃ f : Failure,
        (evaluate p (unitDecimal n).text.toList).result = .error f ∧ f.kind = .invalidArgument := by
  have hlimit : Numeral.MeetsTextLimit p (Numeral.fine n) :=
    Numeral.meetsTextLimit_fine hlong hexact
  have hlast : (Numeral.fraction (Numeral.fine n)).getLast? ≠ some '0' := by
    rw [Numeral.fine, Numeral.fraction_append_point Numeral.digits_zero]
    simp
  have hfits : ¬ FitsWords (Numeral.toRat (Numeral.fine n)).num (Numeral.toRat (Numeral.fine n)).den :=
    fun hfits => Numeral.not_beyondText_of_last hlimit.isLiteral hlast hfits hlimit.beyondText
  obtain ⟨f, hf, hkind⟩ :=
    (evaluate_exact_numeral hscale hlimit.isLiteral (Int.not_lt.mpr hlimit.isExact)).2 hfits
  refine ⟨toRat_unitDecimal_nonneg n, ?_⟩
  rw [← Decimal.toRat_text (toRat_unitDecimal_nonneg n), toList_text_unitDecimal]
  exact ⟨hlimit.isExact, hfits, f, hf, by rw [hkind, if_pos hlimit.beyondText]⟩

theorem evaluate_unitDecimal_tooLong :
    0 ≤ (unitDecimal 4300).toRat ∧
      ((Numeral.fraction (unitDecimal 4300).text.toList).length : Int) ≤ 5000 ∧
      ¬ FitsWords (unitDecimal 4300).toRat.num (unitDecimal 4300).toRat.den ∧
      ∃ f : Failure,
        (evaluate ⟨10, 5000⟩ (unitDecimal 4300).text.toList).result = .error f ∧
        f.kind = .invalidArgument :=
  evaluate_unitDecimal (p := ⟨10, 5000⟩) (longestInteger_eq.trans_le (by decide)) (by decide) (by decide)

end Expression
end Reckoner
