/-!
# UTF-8

Texts as bytes. Decoding splits any bytes into characters and faults: a fault is the longest start
of a well-formed sequence that the bytes break off, or a single byte that starts none. A reader
either refuses faults (`decode?`) or puts the replacement character in the place of each
(`decodeLossy`).
-/

namespace Reckoner

/-- The contents of a file. -/
abbrev Bytes := List UInt8

namespace Utf8

/-- The bytes of a character. -/
def encodeChar (c : Char) : Bytes :=
  let n := c.toNat
  if n < 0x80 then [n.toUInt8]
  else if n < 0x800 then [(0xC0 + n / 0x40).toUInt8, (0x80 + n % 0x40).toUInt8]
  else if n < 0x10000 then
    [(0xE0 + n / 0x1000).toUInt8, (0x80 + n / 0x40 % 0x40).toUInt8, (0x80 + n % 0x40).toUInt8]
  else
    [(0xF0 + n / 0x40000).toUInt8, (0x80 + n / 0x1000 % 0x40).toUInt8,
      (0x80 + n / 0x40 % 0x40).toUInt8, (0x80 + n % 0x40).toUInt8]

/-- The bytes of a text. -/
def encode (cs : List Char) : Bytes := cs.flatMap encodeChar

/-- What a first byte announces: how many bytes follow it, the bits it contributes, and the range
of the byte after it. -/
structure Lead where
  following : Nat
  bits : Nat
  low : Nat
  high : Nat

/-- The announcement of a first byte; the ranges leave out overlong forms, surrogates and numbers
that are no code points. -/
def lead? (b : Nat) : Option Lead :=
  if b < 0x80 then some ⟨0, b, 0, 0⟩
  else if b < 0xC2 then none
  else if b < 0xE0 then some ⟨1, b - 0xC0, 0x80, 0xBF⟩
  else if b < 0xF0 then
    some ⟨2, b - 0xE0, if b = 0xE0 then 0xA0 else 0x80, if b = 0xED then 0x9F else 0xBF⟩
  else if b < 0xF5 then
    some ⟨3, b - 0xF0, if b = 0xF0 then 0x90 else 0x80, if b = 0xF4 then 0x8F else 0xBF⟩
  else none

/-- Takes `following` more bytes, the first of them within a range and the others any following
bytes, and gives the code point or, at a byte that does not fit, a fault; with what is left. -/
def takeTail : Nat → Nat → Nat → Nat → Bytes → Option Nat × Bytes
  | 0, bits, _, _, rest => (some bits, rest)
  | _ + 1, _, _, _, [] => (none, [])
  | n + 1, bits, low, high, b :: rest =>
      if low ≤ b.toNat ∧ b.toNat ≤ high then
        takeTail n (bits * 0x40 + (b.toNat - 0x80)) 0x80 0xBF rest
      else (none, b :: rest)

theorem length_takeTail_le (n bits low high : Nat) (bs : Bytes) :
    (takeTail n bits low high bs).2.length ≤ bs.length := by
  fun_induction takeTail n bits low high bs with
  | case1 => exact Nat.le_refl _
  | case2 => exact Nat.le_refl _
  | case3 _ _ _ _ _ _ _ ih => exact Nat.le_succ_of_le ih
  | case4 => exact Nat.le_refl _

/-- The first character of some bytes, or a fault, and what is left. -/
def takeChar (b : UInt8) (rest : Bytes) : Option Char × Bytes :=
  match lead? b.toNat with
  | none => (none, rest)
  | some l =>
      let r := takeTail l.following l.bits l.low l.high rest
      (r.1.map Char.ofNat, r.2)

theorem length_takeChar_le (b : UInt8) (rest : Bytes) :
    (takeChar b rest).2.length ≤ rest.length := by
  unfold takeChar
  split
  · exact Nat.le_refl _
  · exact length_takeTail_le ..

/-- The characters and faults of some bytes. -/
def scan : Bytes → List (Option Char)
  | [] => []
  | b :: rest => (takeChar b rest).1 :: scan (takeChar b rest).2
termination_by bs => bs.length
decreasing_by exact Nat.lt_succ_of_le (length_takeChar_le b rest)

/-- The character that stands for a fault. -/
def replacement : Char := Char.ofNat 0xFFFD

/-- The text of some bytes, every fault replaced. -/
def decodeLossy (bs : Bytes) : List Char := (scan bs).map fun c => c.getD replacement

/-- The text of some bytes without faults. -/
def decode? (bs : Bytes) : Option (List Char) := (scan bs).mapM id

end Utf8
end Reckoner
