import Mathlib.Algebra.Group.Nat.Defs
import Mathlib.Tactic.Common
import Reckoner.Text.Utf8

/-!
# Decoding

A text is read back from the bytes that write it.  A byte below 128 is a character by itself
wherever it stands: no character and no fault reaches across it, so bytes may be cut at such a byte
before they are decoded as well as after.

**Results.**
* `scan_encode`, `decodeLossy_encode`, `decode?_encode`: what is written is read back, without faults.
* `scan_append_plain`: a byte below 128 parts what is read before it from what is read after it.
* `decode?_eq_none_iff`: bytes are refused exactly when they hold a fault.
-/

namespace Reckoner
namespace Utf8

/-- The first step of a scan. -/
theorem scan_cons
    (b : UInt8)
    (rest : Bytes) :
    scan (b :: rest) = (takeChar b rest).1 :: scan (takeChar b rest).2 := by
  rw [scan]

/-- A following byte within its range adds six bits. -/
theorem takeTail_cons
    {n bits low high : Nat} {b : UInt8}
    (hlow : low ≤ b.toNat)
    (hhigh : b.toNat ≤ high)
    (rest : Bytes) :
    takeTail (n + 1) bits low high (b :: rest) =
      takeTail n (bits * 0x40 + (b.toNat - 0x80)) 0x80 0xBF rest := by
  rw [takeTail, if_pos ⟨hlow, hhigh⟩]

/-- What is left after a character stands at the end of the bytes. -/
theorem suffix_takeTail
    (n bits low high : Nat)
    (bs : Bytes) :
    (takeTail n bits low high bs).2 <:+ bs := by
  fun_induction takeTail n bits low high bs with
  | case3 _ _ _ _ b _ _ ih =>
      exact ih.trans (List.suffix_cons b _)
  | _ =>
      exact List.suffix_refl _

theorem suffix_takeChar
    (x : UInt8)
    (bs : Bytes) :
    (takeChar x bs).2 <:+ bs := by
  unfold takeChar
  split
  · exact List.suffix_refl _
  · exact suffix_takeTail ..

section Encoding

/-- A first byte with an announcement takes the bytes that it announces. -/
theorem scan_of_lead
    {b : UInt8} {l : Lead}
    (h : lead? b.toNat = some l)
    (rest : Bytes) :
    scan (b :: rest) =
      (takeTail l.following l.bits l.low l.high rest).1.map Char.ofNat ::
        scan (takeTail l.following l.bits l.low l.high rest).2 := by
  rw [scan_cons, takeChar, h]

/-- The first byte of a character of two bytes. -/
theorem lead?_two
    {n : Nat}
    (hlow : ¬n < 0x80)
    (hhigh : n < 0x800) :
    lead? (0xC0 + n / 0x40) = some ⟨1, n / 0x40, 0x80, 0xBF⟩ := by
  rw [lead?, if_neg (by omega), if_neg (by omega), if_pos (by omega)]
  simp

/-- The first byte of a character of three bytes; the bounds of the second leave out overlong forms and
surrogates. -/
theorem lead?_three
    {n : Nat}
    (hhigh : n < 0x10000) :
    lead? (0xE0 + n / 0x1000) =
      some ⟨2, n / 0x1000, if n < 0x1000 then 0xA0 else 0x80,
        if n / 0x1000 = 0xD then 0x9F else 0xBF⟩ := by
  rw [lead?, if_neg (by omega), if_neg (by omega), if_neg (by omega), if_pos (by omega)]
  rw [Option.some.injEq, Lead.mk.injEq, Nat.add_sub_cancel_left]
  exact ⟨rfl, rfl, if_congr (by omega) rfl rfl, if_congr (by omega) rfl rfl⟩

/-- The first byte of a character of four bytes; the bounds of the second leave out overlong forms and
what is no code point. -/
theorem lead?_four
    {n : Nat}
    (hhigh : n < 0x110000) :
    lead? (0xF0 + n / 0x40000) =
      some ⟨3, n / 0x40000, if n < 0x40000 then 0x90 else 0x80,
        if n / 0x40000 = 4 then 0x8F else 0xBF⟩ := by
  rw [lead?, if_neg (by omega), if_neg (by omega), if_neg (by omega), if_neg (by omega),
    if_pos (by omega)]
  rw [Option.some.injEq, Lead.mk.injEq, Nat.add_sub_cancel_left]
  exact ⟨rfl, rfl, if_congr (by omega) rfl rfl, if_congr (by omega) rfl rfl⟩

/-- A character is read back from its bytes, and what follows them is left. -/
theorem scan_encodeChar
    (c : Char)
    (rest : Bytes) :
    scan (encodeChar c ++ rest) = some c :: scan rest := by
  have hc : Char.ofNat c.toNat = c := Char.ofNat_toNat c
  have hvalid : c.toNat < 0xD800 ∨ 0xDFFF < c.toNat ∧ c.toNat < 0x110000 := c.valid
  have hbyte {m : Nat} (hm : m < 0x100) : m.toUInt8.toNat = m := by
    simp
    omega
  have htail (m : Nat) : (0x80 + m % 0x40).toUInt8.toNat = 0x80 + m % 0x40 :=
    hbyte (by omega)
  unfold encodeChar
  dsimp only
  generalize c.toNat = n at hc hvalid
  -- one case for each number of bytes
  split_ifs with hone htwo hthree
  · have hfirst : lead? n.toUInt8.toNat = some ⟨0, n, 0, 0⟩ := by
      rw [hbyte (by omega), lead?, if_pos hone]
    rw [List.singleton_append, scan_of_lead hfirst]
    simp [takeTail, hc]
  · have hfirst := lead?_two hone htwo
    have hbits : n / 0x40 * 0x40 + (0x80 + n % 0x40 - 0x80) = n := by omega
    rw [← hbyte (m := 0xC0 + n / 0x40) (by omega)] at hfirst
    simp only [List.cons_append, List.nil_append]
    rw [scan_of_lead hfirst]
    dsimp only
    rw [takeTail_cons (by rw [htail]; omega) (by rw [htail]; omega), htail, hbits]
    simp [takeTail, hc]
  · have hfirst := lead?_three hthree
    have hbits :
        (n / 0x1000 * 0x40 + (0x80 + n / 0x40 % 0x40 - 0x80)) * 0x40 + (0x80 + n % 0x40 - 0x80) =
          n := by
      omega
    rw [← hbyte (m := 0xE0 + n / 0x1000) (by omega)] at hfirst
    simp only [List.cons_append, List.nil_append]
    rw [scan_of_lead hfirst]
    dsimp only
    rw [takeTail_cons (by rw [htail]; split_ifs <;> omega) (by rw [htail]; split_ifs <;> omega),
      takeTail_cons (by rw [htail]; omega) (by rw [htail]; omega), htail, htail, hbits]
    simp [takeTail, hc]
  · have hfirst := lead?_four (n := n) (by omega)
    have hbits :
        ((n / 0x40000 * 0x40 + (0x80 + n / 0x1000 % 0x40 - 0x80)) * 0x40 +
              (0x80 + n / 0x40 % 0x40 - 0x80)) * 0x40 + (0x80 + n % 0x40 - 0x80) =
          n := by
      omega
    rw [← hbyte (m := 0xF0 + n / 0x40000) (by omega)] at hfirst
    simp only [List.cons_append, List.nil_append]
    rw [scan_of_lead hfirst]
    dsimp only
    rw [takeTail_cons (by rw [htail]; split_ifs <;> omega) (by rw [htail]; split_ifs <;> omega),
      takeTail_cons (by rw [htail]; omega) (by rw [htail]; omega),
      takeTail_cons (by rw [htail]; omega) (by rw [htail]; omega), htail, htail, htail, hbits]
    simp [takeTail, hc]

/-- The bytes of a text are read as its characters. -/
theorem scan_encode
    (cs : List Char) :
    scan (encode cs) = cs.map some := by
  induction cs with
  | nil =>
      rw [encode, List.flatMap_nil, scan]
      rfl
  | cons c cs ih =>
      rw [encode, List.flatMap_cons, scan_encodeChar, ← encode, ih]
      rfl

/-- A text is read back from its bytes. -/
theorem decodeLossy_encode
    (cs : List Char) :
    decodeLossy (encode cs) = cs := by
  simp [decodeLossy, scan_encode, Function.comp_def]

/-- And it has no faults. -/
theorem decode?_encode
    (cs : List Char) :
    decode? (encode cs) = some cs := by
  rw [decode?, scan_encode]
  induction cs with
  | nil =>
      rfl
  | cons c cs ih =>
      rw [List.map_cons, List.mapM_cons, ih]
      rfl

end Encoding

section Boundaries

variable {b : UInt8}

/-- A byte below 128 ends a sequence of following bytes. -/
theorem takeTail_append_plain
    (hb : b.toNat < 0x80)
    {n bits low high : Nat}
    (hlow : 0x80 ≤ low)
    (bs rest : Bytes) :
    takeTail n bits low high (bs ++ b :: rest) =
      ((takeTail n bits low high bs).1, (takeTail n bits low high bs).2 ++ b :: rest) := by
  induction n generalizing bits low high bs with
  | zero =>
      rfl
  | succ n ih =>
      cases bs with
      | nil =>
          have hout : ¬(low ≤ b.toNat ∧ b.toNat ≤ high) := by omega
          simp [takeTail, hout]
      | cons x bs =>
          by_cases hx : low ≤ x.toNat ∧ x.toNat ≤ high
          · rw [List.cons_append, takeTail, takeTail, if_pos hx, if_pos hx]
            exact ih (Nat.le_refl _) bs
          · rw [List.cons_append, takeTail, takeTail, if_neg hx, if_neg hx]
            rfl

/-- A first byte is a character by itself, or announces a code point above 127 whose further bytes
are above 127 too. -/
theorem lead?_cases
    {n : Nat} {l : Lead}
    (h : lead? n = some l) :
    (l.following = 0 ∧ l.bits = n) ∨
      ∃ k : Nat,
        l.following = k + 1 ∧ 0x80 ≤ l.low ∧
        0x80 ≤ (l.bits * 0x40 + (l.low - 0x80)) * 0x40 ^ k := by
  unfold lead? at h
  split_ifs at h <;> cases h
  · exact .inl ⟨rfl, rfl⟩
  all_goals
    refine .inr ⟨_, rfl, by dsimp only; omega, ?_⟩
    simp only [Nat.reducePow]
    omega

/-- So a first character is the same with a byte below 128 further on. -/
theorem takeChar_append_plain
    (hb : b.toNat < 0x80)
    (x : UInt8)
    (bs rest : Bytes) :
    takeChar x (bs ++ b :: rest) =
      ((takeChar x bs).1, (takeChar x bs).2 ++ b :: rest) := by
  unfold takeChar
  cases hl : lead? x.toNat with
  | none =>
      rfl
  | some l =>
      dsimp only
      rcases lead?_cases hl with ⟨hzero, -⟩ | ⟨k, -, hlow, -⟩
      · rw [hzero]
        rfl
      · rw [takeTail_append_plain hb hlow]

/-- A byte below 128 is a character by itself, and parts what is read before it from what is read
after it. -/
theorem scan_append_plain
    (hb : b.toNat < 0x80)
    (bs rest : Bytes) :
    scan (bs ++ b :: rest) = scan bs ++ some (Char.ofNat b.toNat) :: scan rest := by
  induction bs using scan.induct with
  | case1 =>
      simp [scan, takeChar, lead?, hb, takeTail]
  | case2 x bs ih =>
      rw [List.cons_append, scan_cons, takeChar_append_plain hb, ih, scan_cons x bs,
        List.cons_append]

@[simp] theorem decodeLossy_nil :
    decodeLossy [] = [] := by
  rw [decodeLossy, scan]
  rfl

theorem decodeLossy_append_plain
    (hb : b.toNat < 0x80)
    (bs rest : Bytes) :
    decodeLossy (bs ++ b :: rest) =
      decodeLossy bs ++ Char.ofNat b.toNat :: decodeLossy rest := by
  rw [decodeLossy, scan_append_plain hb, List.map_append, List.map_cons]
  rfl

theorem decodeLossy_cons_plain
    (hb : b.toNat < 0x80)
    (rest : Bytes) :
    decodeLossy (b :: rest) = Char.ofNat b.toNat :: decodeLossy rest := by
  simpa using decodeLossy_append_plain hb [] rest

/-- Following bytes only add to the bits that they continue. -/
theorem le_of_takeTail
    {n bits low high v : Nat} {bs rest : Bytes}
    (h : takeTail n bits low high bs = (some v, rest)) :
    bits * 0x40 ^ n ≤ v := by
  induction n generalizing bits low high bs with
  | zero =>
      cases h
      simp
  | succ n ih =>
      cases bs with
      | nil =>
          cases h
      | cons x bs =>
          rw [takeTail] at h
          split at h
          · calc
              bits * 0x40 ^ (n + 1) = bits * 0x40 * 0x40 ^ n := by
                rw [Nat.pow_succ, Nat.mul_assoc, Nat.mul_comm (0x40 ^ n)]
              _ ≤ (bits * 0x40 + (x.toNat - 0x80)) * 0x40 ^ n :=
                Nat.mul_le_mul_right _ (Nat.le_add_right _ _)
              _ ≤ v := ih h
          · cases h

/-- A character below 128 is read from a byte of its own. -/
theorem toNat_of_takeChar
    {x : UInt8} {bs : Bytes} {c : Char}
    (h : (takeChar x bs).1 = some c)
    (hpos : 0 < c.toNat)
    (hc : c.toNat < 0x80) :
    x.toNat = c.toNat := by
  have hcode {v : Nat} (hv : Char.ofNat v = c) : v = c.toNat := by
    by_cases hvalid : v.isValidChar
    · rw [← hv, Char.ofNat, dif_pos hvalid]
      rfl
    · rw [← hv, Char.ofNat, dif_neg hvalid] at hpos
      exact absurd hpos (Nat.lt_irrefl 0)
  unfold takeChar at h
  cases hl : lead? x.toNat with
  | none =>
      rw [hl] at h
      cases h
  | some l =>
      rw [hl] at h
      dsimp only at h
      obtain ⟨v, hv, hchar⟩ := Option.map_eq_some_iff.mp h
      have hvalue := hcode hchar
      rcases lead?_cases hl with ⟨hzero, hbits⟩ | ⟨k, hk, hlow, hle⟩
      · rw [hzero] at hv
        cases hv
        rw [← hbits, hvalue]
      · rw [hk] at hv
        cases bs with
        | nil =>
            cases hv
        | cons y bs =>
            rw [takeTail] at hv
            split at hv
            · next hy =>
                -- the bits read are at least those of the least second byte
                have hbits : l.bits * 0x40 + (l.low - 0x80) ≤ l.bits * 0x40 + (y.toNat - 0x80) := by
                  omega
                have := Nat.mul_le_mul_right (0x40 ^ k) hbits
                have := le_of_takeTail (Prod.ext hv rfl)
                omega
            · cases hv

/-- So is one in the middle of a text. -/
theorem mem_of_mem_scan
    {bs : Bytes} {c : Char}
    (h : some c ∈ scan bs)
    (hpos : 0 < c.toNat)
    (hc : c.toNat < 0x80) :
    ∃ x ∈ bs, x.toNat = c.toNat := by
  induction bs using scan.induct with
  | case1 =>
      simp [scan] at h
  | case2 x bs ih =>
      rw [scan_cons] at h
      rcases List.mem_cons.mp h with hfirst | hrest
      · exact ⟨x, List.mem_cons_self, toNat_of_takeChar hfirst.symm hpos hc⟩
      · obtain ⟨y, hy, hyc⟩ := ih hrest
        exact ⟨y, List.mem_cons_of_mem x ((suffix_takeChar x bs).subset hy), hyc⟩

end Boundaries

/-- Bytes are refused exactly when they hold a fault. -/
theorem decode?_eq_none_iff
    (bs : Bytes) :
    decode? bs = none ↔ none ∈ scan bs := by
  unfold decode?
  induction scan bs with
  | nil =>
      simp
  | cons c cs ih =>
      cases c with
      | none =>
          simp
      | some c =>
          simp only [List.mapM_cons, id, Option.pure_def, Option.bind_eq_bind, Option.bind_some,
            Option.bind_eq_none_iff, reduceCtorEq, List.mem_cons, false_or, ← ih]
          exact Option.eq_none_iff_forall_ne_some.symm

end Utf8
end Reckoner
