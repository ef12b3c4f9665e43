import Reckoner.Number.Value
import Reckoner.Proofs.Number.RationalValue

/-!
# Integers as texts

An integer is read from a text of digits, and written as one, only up to a number of digits.  A
number that does not fit the words is refused with its parts, so where one of these is too long it is
the text that fails.  The operations on rationals never come so far, because the parts of their
results are made of words.

**Results.**
* `writableParts_div`: a quotient of integers that can be written has parts that can be written.
* `ofRat_of_writable`, `ofRat_of_not_writable`: how a number that does not fit is refused.
* `writableParts_add`, `writableParts_sub`, `writableParts_mul`, `writableParts_quotient`: the results
  of operations on rationals.
* `Number.writable`: every number of a value can be written.
-/

namespace Reckoner

/-- Whether both parts of a number in lowest terms can be written. -/
def WritableParts (x : ℚ) : Prop :=
  IsWritable x.num ∧ IsWritable x.den

instance (x : ℚ) : Decidable (WritableParts x) := by
  unfold WritableParts
  infer_instance

/-- Whether the integers in the text of a number can be written. -/
def Number.Writable : Number → Prop
  | exact q => IsWritable q.num ∧ IsWritable q.den
  | approximate _ => True

/-- Integers of at most forty digits can be written. -/
theorem isWritable_of_lt
    {n : Int}
    (h : n.natAbs < 10 ^ 40) :
    IsWritable n := by
  have hforty : 40 ≤ longestInteger := by
    rw [longestInteger_eq]
    decide
  exact lt_of_lt_of_le h (Nat.pow_le_pow_right (by decide) hforty)

/-- Integers that are not larger than one that can be written. -/
theorem isWritable_of_le
    {m n : Int}
    (h : m.natAbs ≤ n.natAbs)
    (hn : IsWritable n) :
    IsWritable m :=
  lt_of_le_of_lt h hn

namespace Rational

/-- The numerator of a rational is a word. -/
theorem natAbs_num_le
    (q : Rational) :
    q.num.natAbs ≤ 2 ^ 63 := by
  obtain ⟨hleast, hgreatest, -⟩ := q.fits
  unfold leastWord at hleast
  unfold greatestWord at hgreatest
  omega

/-- So is its denominator. -/
theorem den_le
    (q : Rational) :
    q.den ≤ 2 ^ 63 := by
  obtain ⟨-, -, hgreatest⟩ := q.fits
  unfold greatestWord at hgreatest
  omega

/-- Words can be written. -/
theorem writableParts
    (q : Rational) :
    WritableParts q.toRat :=
  ⟨isWritable_of_lt (lt_of_le_of_lt q.natAbs_num_le (by norm_num)),
    isWritable_of_lt (lt_of_le_of_lt q.den_le (by norm_num))⟩

/-- The parts of a quotient in lowest terms are not larger than the given ones. -/
theorem writableParts_div
    {n d : Int}
    (hn : IsWritable n)
    (hd : IsWritable d) :
    WritableParts ((n : ℚ) / d) := by
  by_cases hzero : d = 0
  · rw [hzero, Int.cast_zero, div_zero]
    exact ⟨isWritable_of_lt (by norm_num), isWritable_of_lt (by norm_num)⟩
  · refine ⟨isWritable_of_le ?_ hn, isWritable_of_le ?_ hd⟩
    · rw [num_div_eq_reducedNum hzero, natAbs_reducedNum]
      exact Nat.div_le_self _ _
    · rw [den_div_eq_reducedDen hzero]
      exact Nat.div_le_self _ _

section Refused

variable {x : ℚ}

/-- A number that does not fit is refused for its range if its parts can be written. -/
theorem ofRat_of_writable
    (hfits : ¬ FitsWords x.num x.den)
    (h : WritableParts x) :
    ofRat x = .error (.fractionRange x.num x.den) := by
  rw [ofRat_of_not_fits hfits]
  exact congrArg Except.error (Failure.worded_of_writable h)

/-- If not, its parts are too long for a text. -/
theorem ofRat_of_not_writable
    (h : ¬ WritableParts x) :
    ofRat x = .error (.integerLength none) := by
  have hfits : ¬ FitsWords x.num x.den := by
    intro hfits
    obtain ⟨q, -, rfl⟩ := ofRat_of_fits hfits
    exact h q.writableParts
  rw [ofRat_of_not_fits hfits]
  exact congrArg Except.error (Failure.worded_of_not_writable h)

/-- A number whose parts can be written fails for its range only. -/
theorem eq_fractionRange_of_ofRat
    (h : WritableParts x)
    {f : Failure}
    (hf : ofRat x = .error f) :
    f = .fractionRange x.num x.den := by
  obtain ⟨hfits, -⟩ := ofRat_eq_error_iff_range.mp hf
  exact Except.error.inj (hf.symm.trans (ofRat_of_writable hfits h))

end Refused

/-- Whatever building a rational fails for can be written. -/
theorem ofParts_failure_writable
    {n d : Int}
    {f : Failure}
    (h : ofParts n d = .error f) :
    f.Writable := by
  unfold ofParts at h
  split at h
  · cases h
    trivial
  · split at h
    · cases h
    · cases h
      exact Failure.writable_worded _

section Operations

/-- A product of two words can be written. -/
theorem isWritable_mul
    {m n : Int}
    (hm : m.natAbs ≤ 2 ^ 63)
    (hn : n.natAbs ≤ 2 ^ 63) :
    IsWritable (m * n) := by
  refine isWritable_of_lt ?_
  rw [Int.natAbs_mul]
  exact lt_of_le_of_lt (Nat.mul_le_mul hm hn) (by norm_num)

/-- So can the sum of two such products. -/
theorem isWritable_mul_add_mul
    {k l m n : Int}
    (hk : k.natAbs ≤ 2 ^ 63)
    (hl : l.natAbs ≤ 2 ^ 63)
    (hm : m.natAbs ≤ 2 ^ 63)
    (hn : n.natAbs ≤ 2 ^ 63) :
    IsWritable (k * l + m * n) := by
  refine isWritable_of_lt ?_
  calc (k * l + m * n).natAbs
      ≤ (k * l).natAbs + (m * n).natAbs := Int.natAbs_add_le _ _
    _ = k.natAbs * l.natAbs + m.natAbs * n.natAbs := by rw [Int.natAbs_mul, Int.natAbs_mul]
    _ ≤ 2 ^ 63 * 2 ^ 63 + 2 ^ 63 * 2 ^ 63 :=
        Nat.add_le_add (Nat.mul_le_mul hk hl) (Nat.mul_le_mul hm hn)
    _ < 10 ^ 40 := by norm_num

variable (a b : Rational)

/-- A product of denominators can be written. -/
theorem isWritable_den_mul_den :
    IsWritable ((a.den * b.den : Nat) : Int) := by
  rw [Nat.cast_mul]
  exact isWritable_mul a.den_le b.den_le

/-- The parts of a sum can be written. -/
theorem writableParts_add :
    WritableParts (a.toRat + b.toRat) := by
  rw [toRat_add_toRat]
  exact writableParts_div
    (isWritable_mul_add_mul a.natAbs_num_le b.den_le b.natAbs_num_le a.den_le)
    (isWritable_den_mul_den a b)

/-- Those of a difference, too. -/
theorem writableParts_sub :
    WritableParts (a.toRat - b.toRat) := by
  rw [toRat_sub_toRat]
  refine writableParts_div ?_ (isWritable_den_mul_den a b)
  rw [sub_eq_add_neg, ← Int.neg_mul]
  refine isWritable_mul_add_mul a.natAbs_num_le b.den_le ?_ a.den_le
  rw [Int.natAbs_neg]
  exact b.natAbs_num_le

/-- Those of a product. -/
theorem writableParts_mul :
    WritableParts (a.toRat * b.toRat) := by
  rw [toRat_mul_toRat]
  exact writableParts_div (isWritable_mul a.natAbs_num_le b.natAbs_num_le)
    (isWritable_den_mul_den a b)

/-- Those of a quotient. -/
theorem writableParts_quotient :
    WritableParts (a.toRat / b.toRat) := by
  rw [toRat_div_toRat]
  exact writableParts_div (isWritable_mul a.natAbs_num_le b.den_le)
    (isWritable_mul a.den_le b.natAbs_num_le)

end Operations

end Rational

/-- Every number can be written. -/
theorem Number.writable
    (n : Number) :
    n.Writable := by
  cases n with
  | exact q =>
      exact q.writableParts
  | approximate d =>
      trivial

end Reckoner
