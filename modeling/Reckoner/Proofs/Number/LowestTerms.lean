import Reckoner.Proofs.Expression.OperatorReadings

/-!
# Lowest terms

Every number has one pair of parts in lowest terms.  Building a rational, and each operation on
rationals, arrives at the lowest terms of the exact result and refuses them only if they are not
words; the size of the products on the way does not matter.  The refusal is worded with the lowest
terms, so building fails in another way where one of them is too long for a text.  The results of
operations never are.

`Rational` has its invariants in its type.  `Parts` are the same fractions without them: two integers
that are divided by their greatest common divisor, given their sign and looked at for their range
where a fraction is formed, and taken as they are everywhere else.  Fractions that come out of any
sequence of instructions on `Parts` are parts of rationals, so the invariants are not lost on the way.

**Results.**
* `existsUnique_lowestTerms`: the lowest terms of a number exist and are unique.
* `isExactFor_ofRat`, `isBuiltFor_ofRat`: what the rational of a number comes to is told by the lowest
  terms.
* `form_eq_ofParts`, `combine_eq_exact`: fractions without invariants are formed and combined like
  rationals.
* `run_map`: so are those of a whole run.
* `arithmetic_lowest_terms`: the main result, for building, for the operations and for runs.
-/

namespace Reckoner

/-- The parts of a number in lowest terms: the denominator is positive, nothing divides both, and
their quotient is the number. -/
structure LowestTerms
    (x : ℚ)
    (p : Int)
    (q : Nat) : Prop where
  den_pos : 0 < q
  coprime : Nat.gcd p.natAbs q = 1
  quotient : (p : ℚ) / q = x

theorem lowestTerms_iff_num_den
    {x : ℚ}
    {p : Int}
    {q : Nat} :
    LowestTerms x p q ↔ p = x.num ∧ q = x.den := by
  constructor
  · rintro ⟨hpos, hcoprime, rfl⟩
    have hpos' : (0 : ℤ) < (q : ℤ) := by
      exact_mod_cast hpos
    have hnum := Rat.num_div_eq_of_coprime hpos' hcoprime
    have hden := Rat.den_div_eq_of_coprime hpos' hcoprime
    push_cast at hnum hden
    exact ⟨hnum.symm, by exact_mod_cast hden.symm⟩
  · rintro ⟨rfl, rfl⟩
    exact ⟨x.den_pos, x.reduced, Rat.num_div_den x⟩

theorem existsUnique_lowestTerms
    (x : ℚ) :
    ∃! parts : Int × Nat, LowestTerms x parts.1 parts.2 := by
  refine ⟨(x.num, x.den), lowestTerms_iff_num_den.mpr ⟨rfl, rfl⟩, ?_⟩
  rintro ⟨p, q⟩ h
  exact Prod.ext_iff.mpr (lowestTerms_iff_num_den.mp h)

/-- Parts within signed words of 64 bits. -/
def WithinWords
    (p : Int)
    (q : Int) : Prop :=
  -2 ^ 63 ≤ p ∧ p ≤ 2 ^ 63 - 1 ∧ q ≤ 2 ^ 63 - 1

theorem fitsWords_iff_withinWords
    {p : Int}
    {q : Nat} :
    FitsWords p q ↔ WithinWords p q := by
  rfl

/-- An outcome is exact for a number, which has one pair of lowest terms: it is the rational with these
parts, or it is the failure for their range where they are not words. -/
structure IsExactFor
    (outcome : Except Failure Rational)
    (x : ℚ) : Prop where
  existsUnique : ∃! parts : Int × Nat, LowestTerms x parts.1 parts.2
  ok_iff : ∀ r, outcome = .ok r ↔ LowestTerms x r.num r.den
  error_iff :
    ∀ f, outcome = .error f ↔ ∃ p q, LowestTerms x p q ∧ ¬ WithinWords p q ∧ f = .fractionRange p q
  overflow_iff :
    (∃ f, outcome = .error f ∧ f.kind = .fractionOverflow) ↔
      ∃ p q, LowestTerms x p q ∧ ¬ WithinWords p q

/-- An outcome is exact for a number whose lowest terms can be written.  If they cannot, it is neither
the rational nor the failure for the range, but one of the text. -/
structure IsBuiltFor
    (outcome : Except Failure Rational)
    (x : ℚ) : Prop where
  ok_iff : ∀ r, outcome = .ok r ↔ LowestTerms x r.num r.den
  exact : ∀ p q, LowestTerms x p q → IsWritable p ∧ IsWritable q → IsExactFor outcome x
  tooLong :
    ∀ p q, LowestTerms x p q → ¬ (IsWritable p ∧ IsWritable q) → outcome = .error (.integerLength none)

/-- A rational is the rational of a number exactly if its parts are the lowest terms. -/
theorem Rational.ofRat_eq_ok_iff
    {x : ℚ}
    {r : Rational} :
    ofRat x = .ok r ↔ LowestTerms x r.num r.den := by
  rw [lowestTerms_iff_num_den]
  constructor
  · intro h
    unfold ofRat at h
    split at h
    · cases h
      exact ⟨rfl, rfl⟩
    · cases h
  · obtain ⟨p, q, hpos, hcoprime, hfits⟩ := r
    rintro ⟨rfl, rfl⟩
    exact dif_pos hfits

/-- A number is refused exactly if its lowest terms are not words. -/
theorem Rational.ofRat_eq_error_iff
    {x : ℚ}
    (hwritable : WritableParts x)
    {f : Failure} :
    ofRat x = .error f ↔
      ∃ p q, LowestTerms x p q ∧ ¬ WithinWords p q ∧ f = .fractionRange p q := by
  constructor
  · intro h
    obtain ⟨hfits, -⟩ := ofRat_eq_error_iff_range.mp h
    exact ⟨x.num, x.den, lowestTerms_iff_num_den.mpr ⟨rfl, rfl⟩,
      mt fitsWords_iff_withinWords.mpr hfits, eq_fractionRange_of_ofRat hwritable h⟩
  · rintro ⟨p, q, hlowest, hrange, rfl⟩
    obtain ⟨rfl, rfl⟩ := lowestTerms_iff_num_den.mp hlowest
    exact ofRat_of_writable (mt fitsWords_iff_withinWords.mp hrange) hwritable

theorem isExactFor_ofRat
    {x : ℚ}
    (hwritable : WritableParts x) :
    IsExactFor (Rational.ofRat x) x where
  existsUnique := existsUnique_lowestTerms x
  ok_iff _ := Rational.ofRat_eq_ok_iff
  error_iff _ := Rational.ofRat_eq_error_iff hwritable
  overflow_iff := by
    constructor
    · rintro ⟨f, hf, -⟩
      obtain ⟨p, q, hlowest, hrange, -⟩ := (Rational.ofRat_eq_error_iff hwritable).mp hf
      exact ⟨p, q, hlowest, hrange⟩
    · rintro ⟨p, q, hlowest, hrange⟩
      exact ⟨_, (Rational.ofRat_eq_error_iff hwritable).mpr ⟨p, q, hlowest, hrange, rfl⟩, rfl⟩

theorem isBuiltFor_ofRat
    (x : ℚ) :
    IsBuiltFor (Rational.ofRat x) x where
  ok_iff _ := Rational.ofRat_eq_ok_iff
  exact := by
    intro p q hlowest hwritable
    obtain ⟨rfl, rfl⟩ := lowestTerms_iff_num_den.mp hlowest
    exact isExactFor_ofRat hwritable
  tooLong := by
    intro p q hlowest hwritable
    obtain ⟨rfl, rfl⟩ := lowestTerms_iff_num_den.mp hlowest
    exact Rational.ofRat_of_not_writable hwritable

namespace Rational

/-- Building a rational is refused as a construction for a denominator of zero only. -/
theorem ofParts_invalidConstruction_iff
    (n d : Int) :
    (∃ f, ofParts n d = .error f ∧ f.kind = .invalidConstruction) ↔ d = 0 := by
  constructor
  · rintro ⟨f, hf, hkind⟩
    by_contra hd
    rw [ofParts_eq_ofRat n hd, ofRat_eq_error_iff_range] at hf
    rcases (Failure.fractionRange _ _).worded_cases with hworded | hworded <;>
      rw [hf.2, hworded] at hkind <;> cases hkind
  · rintro rfl
    exact ⟨_, rfl, rfl⟩

theorem divide_of_ne_zero
    (a : Rational)
    {b : Rational}
    (hb : b.num ≠ 0) :
    a.divide b = ofRat (a.toRat / b.toRat) := by
  rw [divide_eq_ofRat, if_neg (mt (toRat_eq_zero_iff b).mp hb)]

/-- No operation fails as a construction. -/
theorem exact_ne_invalidConstruction
    (op : Operator)
    {a b : Rational}
    {f : Failure}
    (h : op.operation.exact a b = .error f) :
    f.kind ≠ .invalidConstruction := by
  rcases Operator.exact_failure h with hkind | hkind <;> rw [hkind] <;> decide

end Rational

/-- A fraction as two integers of which nothing is known. -/
structure Parts where
  num : Int
  den : Int
  deriving DecidableEq, Repr

namespace Parts

/-- Both parts divided by their greatest common divisor, rounding down, and a sign in the denominator
moved to the numerator. -/
def reduced (n d : Int) : Parts :=
  let divisor : Int := Int.gcd n d
  if d.fdiv divisor < 0 then ⟨-n.fdiv divisor, -d.fdiv divisor⟩
  else ⟨n.fdiv divisor, d.fdiv divisor⟩

/-- The fraction of two integers, unless the second is zero or the range forbids it. -/
def form (n d : Int) : Except Failure Parts :=
  if d = 0 then .error .zeroDenominator
  else
    let parts := reduced n d
    if leastWord ≤ parts.num ∧ parts.num ≤ greatestWord ∧ parts.den ≤ greatestWord then .ok parts
    else .error (Failure.fractionRange parts.num parts.den.toNat).worded

/-- An integer alone, any other fraction with its denominator. -/
def text (q : Parts) : String :=
  if q.den = 1 then q.num.repr else q.num.repr ++ "/" ++ q.den.repr

/-- The operations, by cross multiplication of the parts. -/
def combine : Operator → Parts → Parts → Except Failure Parts
  | .plus, a, b => form (a.num * b.den + b.num * a.den) (a.den * b.den)
  | .minus, a, b => form (a.num * b.den - b.num * a.den) (a.den * b.den)
  | .times, a, b => form (a.num * b.num) (a.den * b.den)
  | .dividedBy, a, b =>
      if b.num = 0 then .error (.zeroDivisor (some a.text))
      else form (a.num * b.den) (a.den * b.num)

end Parts

/-- The parts of a rational. -/
def Rational.parts (q : Rational) : Parts :=
  ⟨q.num, q.den⟩

@[simp] theorem Rational.num_parts
    (q : Rational) :
    q.parts.num = q.num := by
  rfl

@[simp] theorem Rational.den_parts
    (q : Rational) :
    q.parts.den = q.den := by
  rfl

namespace Parts

/-- Division rounding down and the sign move give the reduced parts. -/
theorem reduced_eq
    {n d : Int}
    (hd : d ≠ 0) :
    reduced n d = ⟨Rational.reducedNum n d, Rational.reducedDen n d⟩ := by
  have hpos : 0 < Int.gcd n d :=
    Rational.gcd_pos_of_ne_zero hd
  obtain ⟨a, ha⟩ : (Int.gcd n d : ℤ) ∣ n := Int.gcd_dvd_left n d
  obtain ⟨b, hb⟩ : (Int.gcd n d : ℤ) ∣ d := Int.gcd_dvd_right n d
  unfold reduced Rational.reducedNum Rational.reducedDen
  generalize Int.gcd n d = g at ha hb hpos ⊢
  subst ha hb
  have hg : (g : ℤ) ≠ 0 :=
    Int.natCast_ne_zero.mpr hpos.ne'
  have neg_iff : ∀ c : ℤ, (g : ℤ) * c < 0 ↔ c < 0 :=
    fun c => smul_neg_iff_of_pos_left (Int.natCast_pos.mpr hpos)
  have natAbs_div : ∀ c : ℤ, ((g : ℤ) * c).natAbs / g = c.natAbs := by
    intro c
    rw [Int.natAbs_mul, Int.natAbs_natCast, Nat.mul_div_cancel_left _ hpos]
  simp only [Int.mul_fdiv_cancel_left _ hg, neg_iff, natAbs_div, eq_iff_iff]
  -- The sign of the numerator was decided by both parts, here by the denominator alone.
  have hb : b ≠ 0 :=
    right_ne_zero_of_mul hd
  split_ifs <;> simp only [Parts.mk.injEq] <;> omega

/-- Fractions without invariants are formed like rationals. -/
theorem form_eq_ofParts
    (n d : Int) :
    form n d = (Rational.ofParts n d).map Rational.parts := by
  unfold form Rational.ofParts
  by_cases hd : d = 0
  · rw [if_pos hd, dif_pos hd]
    rfl
  · rw [if_neg hd, dif_neg hd]
    simp only [reduced_eq hd, Int.toNat_natCast]
    change (if FitsWords (Rational.reducedNum n d) (Rational.reducedDen n d) then _ else _) = _
    split <;> rfl

/-- The least word is a numerator, but no denominator. -/
example :
    form 4 (-6) = .ok ⟨-2, 3⟩ ∧
      form leastWord 1 = .ok ⟨leastWord, 1⟩ ∧
      form 1 leastWord = .error (.fractionRange (-1) (2 ^ 63)) := by
  decide +kernel

theorem text_parts
    (q : Rational) :
    q.parts.text = q.text := by
  simp only [text, Rational.text, Rational.num_parts, Rational.den_parts, Nat.cast_eq_one]
  rfl

/-- They are combined like rationals. -/
theorem combine_eq_exact
    (op : Operator)
    (a b : Rational) :
    combine op a.parts b.parts = (op.operation.exact a b).map Rational.parts := by
  cases op with
  | plus | minus | times =>
      simp only [combine, Rational.num_parts, Rational.den_parts, form_eq_ofParts,
        ← Int.natCast_mul]
      rfl
  | dividedBy =>
      simp only [combine, Operator.operation, Rational.divide, Rational.isZero, beq_iff_eq,
        Rational.num_parts, Rational.den_parts, form_eq_ofParts, text_parts]
      split <;> rfl

end Parts

/-- An instruction of a calculation on fractions: a new one from two integers, or the result of an
operation on two that exist, by their places. -/
inductive Instruction where
  | form (n d : Int)
  | combine (op : Operator) (left right : Nat)
  deriving DecidableEq, Repr

/-- How fractions of some kind are formed and combined. -/
structure Arithmetic (α : Type) where
  form : Int → Int → Except Failure α
  combine : Operator → α → α → Except Failure α

namespace Arithmetic

variable {α β : Type}

/-- The outcome of an instruction, if its operands exist. -/
def outcome (A : Arithmetic α) (fractions : List α) : Instruction → Option (Except Failure α)
  | .form n d => some (A.form n d)
  | .combine op left right =>
      match fractions[left]?, fractions[right]? with
      | some a, some b => some (A.combine op a b)
      | _, _ => none

/-- The fractions after an instruction: a failure adds none. -/
def step (A : Arithmetic α) (fractions : List α) (i : Instruction) : List α :=
  match A.outcome fractions i with
  | some (.ok r) => fractions ++ [r]
  | _ => fractions

/-- The fractions in existence after a sequence of instructions. -/
def run (A : Arithmetic α) : List Instruction → List α → List α
  | [], fractions => fractions
  | i :: instructions, fractions => A.run instructions (A.step fractions i)

variable {A : Arithmetic α} {B : Arithmetic β} {g : α → β}

/-- A map that carries one arithmetic over to another carries the outcome of an instruction over. -/
theorem outcome_map
    (hform : ∀ n d, B.form n d = (A.form n d).map g)
    (hcombine : ∀ op a b, B.combine op (g a) (g b) = (A.combine op a b).map g)
    (fractions : List α)
    (i : Instruction) :
    B.outcome (fractions.map g) i = (A.outcome fractions i).map (Except.map g) := by
  cases i with
  | form n d =>
      exact congrArg some (hform n d)
  | combine op left right =>
      simp only [outcome, List.getElem?_map]
      cases fractions[left]? with
      | none =>
          rfl
      | some a =>
          cases fractions[right]? with
          | none =>
              rfl
          | some b =>
              exact congrArg some (hcombine op a b)

/-- So it carries a step over. -/
theorem step_map
    (hform : ∀ n d, B.form n d = (A.form n d).map g)
    (hcombine : ∀ op a b, B.combine op (g a) (g b) = (A.combine op a b).map g)
    (fractions : List α)
    (i : Instruction) :
    B.step (fractions.map g) i = (A.step fractions i).map g := by
  unfold step
  rw [outcome_map hform hcombine]
  cases A.outcome fractions i with
  | none =>
      rfl
  | some result =>
      cases result with
      | error f =>
          rfl
      | ok r =>
          simp [Except.map]

/-- So it carries whole runs over. -/
theorem run_map
    (hform : ∀ n d, B.form n d = (A.form n d).map g)
    (hcombine : ∀ op a b, B.combine op (g a) (g b) = (A.combine op a b).map g)
    (instructions : List Instruction)
    (fractions : List α) :
    B.run instructions (fractions.map g) = (A.run instructions fractions).map g := by
  induction instructions generalizing fractions with
  | nil =>
      rfl
  | cons i instructions ih =>
      rw [run, run, step_map hform hcombine, ih]

end Arithmetic

/-- The arithmetic of rationals. -/
def Rational.arithmetic : Arithmetic Rational where
  form := Rational.ofParts
  combine op := op.operation.exact

/-- The arithmetic of fractions without invariants. -/
def Parts.arithmetic : Arithmetic Parts where
  form := Parts.form
  combine := Parts.combine

/-- The fractions of a run are those of the same run on rationals. -/
theorem Parts.run_eq_map
    (instructions : List Instruction) :
    Parts.arithmetic.run instructions [] =
      (Rational.arithmetic.run instructions []).map Rational.parts :=
  Arithmetic.run_map Parts.form_eq_ofParts Parts.combine_eq_exact instructions []

/-- So they have the invariants of rationals, of which the type `Parts` says nothing. -/
theorem Parts.invariants_of_mem_run
    {instructions : List Instruction}
    {q : Parts}
    (h : q ∈ Parts.arithmetic.run instructions []) :
    0 < q.den ∧ Int.gcd q.num q.den = 1 ∧ WithinWords q.num q.den := by
  rw [run_eq_map] at h
  obtain ⟨r, -, rfl⟩ := List.mem_map.mp h
  exact ⟨Int.natCast_pos.mpr r.den_pos, r.reduced, fitsWords_iff_withinWords.mp r.fits⟩

/-- Fraction arithmetic is exact, in lowest terms, and limited by the range of its results only.
Building fails as a construction exactly for a denominator of zero, a division as a division by zero
exactly for a divisor of zero; every other outcome is exact, but that fractions are not built from
numbers whose lowest terms are too long for a text.  Runs of fractions whose type has no
invariants agree with runs of rationals, and every fraction they leave has all three. -/
theorem Rational.arithmetic_lowest_terms
    (n d : Int)
    (a b : Rational)
    (instructions : List Instruction) :
    (((∃ f, ofParts n d = .error f ∧ f.kind = .invalidConstruction) ↔ d = 0) ∧
      (d ≠ 0 → IsBuiltFor (ofParts n d) ((n : ℚ) / d))) ∧
    (IsExactFor (a.add b) (a.toRat + b.toRat) ∧
      IsExactFor (a.subtract b) (a.toRat - b.toRat) ∧
      IsExactFor (a.multiply b) (a.toRat * b.toRat) ∧
      (b.num ≠ 0 → IsExactFor (a.divide b) (a.toRat / b.toRat)) ∧
      ((∃ f, a.divide b = .error f ∧ f.kind = .divisionByZero) ↔ b.num = 0) ∧
      ∀ f, a.divide b = .error f → f.kind ≠ .invalidConstruction) ∧
    Parts.arithmetic.run instructions [] = (arithmetic.run instructions []).map parts ∧
    ∀ q ∈ Parts.arithmetic.run instructions [],
      0 < q.den ∧ Int.gcd q.num q.den = 1 ∧ WithinWords q.num q.den := by
  refine ⟨⟨ofParts_invalidConstruction_iff n d, ?built⟩, ?operations, Parts.run_eq_map instructions,
    fun _ => Parts.invariants_of_mem_run⟩
  case built =>
    intro hd
    rw [ofParts_eq_ofRat n hd]
    exact isBuiltFor_ofRat _
  case operations =>
    rw [add_eq_ofRat, subtract_eq_ofRat, multiply_eq_ofRat]
    refine ⟨isExactFor_ofRat (a.writableParts_add b), isExactFor_ofRat (a.writableParts_sub b),
      isExactFor_ofRat (a.writableParts_mul b), ?quotient,
      (divide_divisionByZero_iff a b).trans (toRat_eq_zero_iff b), ?noConstruction⟩
    case quotient =>
      intro hb
      rw [divide_of_ne_zero a hb]
      exact isExactFor_ofRat (a.writableParts_quotient b)
    case noConstruction =>
      exact fun f => exact_ne_invalidConstruction .dividedBy

/-- One over a power of ten with too many digits: these are the lowest terms, and they are no words, but
this is not what building the fraction fails for. -/
theorem Rational.ofParts_one_pow
    {n : Nat}
    (h : longestInteger ≤ n) :
    (10 ^ n : Int) ≠ 0 ∧
      LowestTerms (((1 : Int) : ℚ) / (10 ^ n : Int)) 1 (10 ^ n) ∧
      ¬ WithinWords 1 (10 ^ n) ∧
      ∃ f, ofParts 1 (10 ^ n) = .error f ∧ f.kind = .invalidArgument := by
  have hden : (10 ^ n : Int) ≠ 0 :=
    pow_ne_zero _ (by decide)
  have hlowest : LowestTerms (((1 : Int) : ℚ) / (10 ^ n : Int)) 1 (10 ^ n) :=
    ⟨Nat.pow_pos (by decide), Nat.gcd_one_left _, by push_cast; rfl⟩
  have htooLong : ¬ IsWritable ((10 ^ n : Nat) : Int) := by
    rw [IsWritable, Int.natAbs_natCast]
    exact Nat.not_lt.mpr (Nat.pow_le_pow_right (by decide) h)
  refine ⟨hden, hlowest, ?_, .integerLength none, ?_, rfl⟩
  · rintro ⟨-, -, hword⟩
    rw [longestInteger_eq] at h
    have hten : (10 : Int) ^ 20 ≤ 10 ^ n :=
      pow_le_pow_right₀ (by decide) (le_trans (by decide) h)
    exact absurd (le_trans hten hword) (by decide)
  · rw [ofParts_eq_ofRat _ hden]
    exact (isBuiltFor_ofRat _).tooLong _ _ hlowest fun hwritable => htooLong hwritable.2

/-- So no power of ten with more than four thousand and three hundred digits can be a denominator. -/
theorem Rational.ofParts_one_pow_tooLong :
    (10 ^ 4301 : Int) ≠ 0 ∧
      LowestTerms (((1 : Int) : ℚ) / (10 ^ 4301 : Int)) 1 (10 ^ 4301) ∧
      ¬ WithinWords 1 (10 ^ 4301) ∧
      ∃ f, ofParts 1 (10 ^ 4301) = .error f ∧ f.kind = .invalidArgument :=
  ofParts_one_pow (longestInteger_eq.trans_le (by decide))

end Reckoner
