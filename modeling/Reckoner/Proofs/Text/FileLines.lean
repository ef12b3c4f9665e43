import Reckoner.Proofs.Text.Decoding
import Reckoner.Text.Lines

/-!
# Lines of a file

How lines lie in the bytes of a file: each has an end, which is a line feed, a carriage return or
both in this order, and only the last may go without, if it is not empty.  Reading a file decodes its
bytes first and looks for line ends afterwards.  It comes to the same as decoding line by line.  Lines
that are written with a line feed after each are read back as they were.

**Results.**
* `exists_linesOf`: lines lie in any bytes.
* `fileLines_of_linesOf`: the lines that are read are those that lie in the bytes, decoded.
* `fileLines_encode`: written lines are read back.
-/

namespace Reckoner
namespace Text

section CharacterLines

variable {cs : List Char}

/-- A text without carriage returns keeps its characters. -/
theorem unifyLineEnds_append
    (h : '\r' ∉ cs)
    (rest : List Char) :
    unifyLineEnds (cs ++ rest) = cs ++ unifyLineEnds rest := by
  induction cs with
  | nil =>
      rfl
  | cons c cs ih =>
      rw [List.mem_cons, not_or] at h
      rw [List.cons_append, unifyLineEnds, if_neg (Ne.symm h.1), ih h.2, List.cons_append]
      exact fun _ hc _ => h.1 hc.symm

theorem unifyLineEnds_of_not_mem
    (h : '\r' ∉ cs) :
    unifyLineEnds cs = cs := by
  have := unifyLineEnds_append h []
  rwa [List.append_nil, unifyLineEnds, List.append_nil] at this

/-- A carriage return is a line end by itself before anything but a line feed. -/
theorem unifyLineEnds_return
    {rest : List Char}
    (h : rest.head? ≠ some '\n') :
    unifyLineEnds ('\r' :: rest) = '\n' :: unifyLineEnds rest := by
  rw [unifyLineEnds, if_pos rfl]
  rintro rest' - rfl
  exact h rfl

/-- The line up to the first line feed. -/
theorem linesWithEnds_append
    (h : '\n' ∉ cs)
    (rest : List Char) :
    linesWithEnds (cs ++ '\n' :: rest) = (cs ++ ['\n']) :: linesWithEnds rest := by
  induction cs with
  | nil =>
      rw [List.nil_append, linesWithEnds, if_pos rfl]
      rfl
  | cons c cs ih =>
      rw [List.mem_cons, not_or] at h
      rw [List.cons_append, linesWithEnds, if_neg (Ne.symm h.1), ih h.2]
      rfl

theorem linesWithEnds_of_not_mem
    (hne : cs ≠ [])
    (h : '\n' ∉ cs) :
    linesWithEnds cs = [cs] := by
  induction cs with
  | nil =>
      exact absurd rfl hne
  | cons c cs ih =>
      rw [List.mem_cons, not_or] at h
      rw [linesWithEnds, if_neg (Ne.symm h.1)]
      cases cs with
      | nil =>
          rfl
      | cons d cs =>
          rw [ih (List.cons_ne_nil d cs) h.2]

theorem lines_append
    (h : '\n' ∉ cs)
    (rest : List Char) :
    lines (cs ++ '\n' :: rest) = cs :: lines rest := by
  rw [lines, linesWithEnds_append h, List.map_cons, ← lines]
  simp [dropLineFeed]

theorem lines_of_not_mem
    (hne : cs ≠ [])
    (h : '\n' ∉ cs) :
    lines cs = [cs] := by
  have hlast : cs.getLast? ≠ some '\n' := fun hlast => h (List.mem_of_getLast? hlast)
  rw [lines, linesWithEnds_of_not_mem hne h]
  simp [dropLineFeed, hlast]

/-- Lines with a line feed after each are read back. -/
theorem lines_flatMap
    {rows : List (List Char)}
    (h : ∀ row ∈ rows, '\n' ∉ row) :
    lines (rows.flatMap fun row => row ++ ['\n']) = rows := by
  induction rows with
  | nil =>
      rfl
  | cons row rows ih =>
      have hrest : ∀ row' ∈ rows, '\n' ∉ row' :=
        fun row' hrow' => h row' (List.mem_cons_of_mem row hrow')
      rw [List.flatMap_cons, List.append_assoc, List.singleton_append,
        lines_append (h row List.mem_cons_self), ih hrest]

/-- How lines with their line feeds make up a text: each ends in one and holds no other, and only the
last may go without, if it is not empty. -/
inductive FeedLines : List (List Char) → List Char → Prop
  | none :
      FeedLines [] []
  | last
      {line : List Char}
      (hne : line ≠ [])
      (hline : '\n' ∉ line) :
      FeedLines [line] line
  | cons
      {line rest : List Char} {lines : List (List Char)}
      (hline : '\n' ∉ line)
      (hrest : FeedLines lines rest) :
      FeedLines ((line ++ ['\n']) :: lines) (line ++ '\n' :: rest)

/-- The lines of a text make it up. -/
theorem feedLines_linesWithEnds
    (cs : List Char) :
    FeedLines (linesWithEnds cs) cs := by
  induction cs with
  | nil =>
      exact .none
  | cons c cs ih =>
      unfold linesWithEnds
      split
      · next hc =>
          subst hc
          exact .cons List.not_mem_nil ih
      · next hc =>
          have hout {line : List Char} (hline : '\n' ∉ line) : '\n' ∉ c :: line := by
            rw [List.mem_cons, not_or]
            exact ⟨Ne.symm hc, hline⟩
          cases hlines : linesWithEnds cs with
          | nil =>
              rw [hlines] at ih
              cases ih
              exact .last (List.cons_ne_nil c []) (hout List.not_mem_nil)
          | cons line lines =>
              rw [hlines] at ih
              cases ih with
              | last hne hline =>
                  exact .last (List.cons_ne_nil c _) (hout hline)
              | cons hline hrest =>
                  exact .cons (hout hline) hrest

end CharacterLines

/-- Whether a text stands on one line. -/
def OnOneLine (cs : List Char) : Prop :=
  '\n' ∉ cs ∧ '\r' ∉ cs

instance : DecidablePred OnOneLine :=
  fun cs => inferInstanceAs (Decidable ('\n' ∉ cs ∧ '\r' ∉ cs))

@[simp] theorem onOneLine_append
    (cs ds : List Char) :
    OnOneLine (cs ++ ds) ↔ OnOneLine cs ∧ OnOneLine ds := by
  simp only [OnOneLine, List.mem_append, not_or]
  constructor
  · rintro ⟨⟨hcs, hds⟩, hcs', hds'⟩
    exact ⟨⟨hcs, hcs'⟩, hds, hds'⟩
  · rintro ⟨⟨hcs, hcs'⟩, hds, hds'⟩
    exact ⟨⟨hcs, hds⟩, hcs', hds'⟩

/-- Lines written with a line feed after each are read back from the bytes. -/
theorem fileLines_encode
    {rows : List (List Char)}
    (h : ∀ row ∈ rows, OnOneLine row) :
    fileLines (Utf8.encode (rows.flatMap fun row => row ++ ['\n'])) = rows := by
  have hreturn : '\r' ∉ rows.flatMap fun row => row ++ ['\n'] := by
    intro hmem
    obtain ⟨row, hrow, hc⟩ := List.mem_flatMap.mp hmem
    rcases List.mem_append.mp hc with hc | hc
    · exact (h row hrow).2 hc
    · exact absurd (List.mem_singleton.mp hc) (by decide)
  rw [fileLines, Utf8.decodeLossy_encode, unifyLineEnds_of_not_mem hreturn]
  exact lines_flatMap fun row hrow => (h row hrow).1

section ByteLines

/-- A line end, before the bytes that follow it. -/
inductive IsLineEnd : Bytes → Bytes → Prop
  | feed
      (rest : Bytes) :
      IsLineEnd [0x0A] rest
  | both
      (rest : Bytes) :
      IsLineEnd [0x0D, 0x0A] rest
  | carriageReturn
      {rest : Bytes}
      (hrest : rest.head? ≠ some 0x0A) :
      IsLineEnd [0x0D] rest

/-- Whether bytes hold no part of a line end. -/
def Endless (bs : Bytes) : Prop :=
  ∀ b ∈ bs, b ≠ 0x0A ∧ b ≠ 0x0D

/-- How lines lie in bytes. -/
inductive LinesOf : List Bytes → Bytes → Prop
  | none :
      LinesOf [] []
  | last
      {line : Bytes}
      (hne : line ≠ [])
      (hline : Endless line) :
      LinesOf [line] line
  | cons
      {line lineEnd rest : Bytes} {lines : List Bytes}
      (hline : Endless line)
      (hend : IsLineEnd lineEnd rest)
      (hrest : LinesOf lines rest) :
      LinesOf (line :: lines) (line ++ (lineEnd ++ rest))

/-- A byte before the first line belongs to it. -/
theorem LinesOf.push
    {b : UInt8} {lines : List Bytes} {bs : Bytes}
    (hb : b ≠ 0x0A ∧ b ≠ 0x0D)
    (h : LinesOf lines bs) :
    ∃ lines' : List Bytes, LinesOf lines' (b :: bs) := by
  have hendless {line : Bytes} (hline : Endless line) : Endless (b :: line) := by
    intro x hx
    rcases List.mem_cons.mp hx with rfl | hx
    · exact hb
    · exact hline x hx
  cases h with
  | none =>
      exact ⟨_, .last (List.cons_ne_nil b []) (hendless fun x hx => nomatch hx)⟩
  | last hne hline =>
      exact ⟨_, .last (List.cons_ne_nil b _) (hendless hline)⟩
  | cons hline hend hrest =>
      exact ⟨_, .cons (hendless hline) hend hrest⟩

/-- Lines lie in any bytes. -/
theorem exists_linesOf
    (bs : Bytes) :
    ∃ lines : List Bytes, LinesOf lines bs := by
  have hempty : Endless [] := fun x hx => nomatch hx
  -- on the number of bytes, since a line end may take two of them
  induction hn : bs.length using Nat.strongRecOn generalizing bs with
  | ind n ih =>
      rcases bs with _ | ⟨b, bs⟩
      · exact ⟨[], .none⟩
      · obtain ⟨lines, hlines⟩ := ih bs.length (by rw [← hn]; exact Nat.lt_succ_self _) bs rfl
        by_cases hfeed : b = 0x0A
        · subst hfeed
          exact ⟨_, .cons hempty (.feed bs) hlines⟩
        by_cases hreturn : b = 0x0D
        · subst hreturn
          by_cases hhead : bs.head? = some 0x0A
          · -- both bytes are one line end
            obtain ⟨rest, rfl⟩ := List.head?_eq_some_iff.mp hhead
            obtain ⟨lines', hlines'⟩ := ih rest.length (by rw [← hn, List.length_cons, List.length_cons]; omega) rest rfl
            exact ⟨_, .cons hempty (.both rest) hlines'⟩
          · exact ⟨_, .cons hempty (.carriageReturn hhead) hlines⟩
        · exact hlines.push ⟨hfeed, hreturn⟩

/-- A part of a text in which no line ends decodes to characters that end no line. -/
theorem onOneLine_decodeLossy
    {bs : Bytes}
    (h : Endless bs) :
    OnOneLine (Utf8.decodeLossy bs) := by
  have hout {c : Char} (hpos : 0 < c.toNat) (hc : c.toNat < 0x80) (hb : ∀ b ∈ bs, b.toNat ≠ c.toNat) :
      c ∉ Utf8.decodeLossy bs := by
    intro hmem
    obtain ⟨x, hx, hxc⟩ := List.mem_map.mp hmem
    cases x with
    | none =>
        rw [← hxc] at hc
        exact absurd hc (by decide)
    | some d =>
        cases hxc
        obtain ⟨b, hbs, hbc⟩ := Utf8.mem_of_mem_scan hx hpos hc
        exact hb b hbs hbc
  constructor
  · refine hout (by decide) (by decide) fun b hb hbc => (h b hb).1 ?_
    exact UInt8.toNat_inj.mp hbc
  · refine hout (by decide) (by decide) fun b hb hbc => (h b hb).2 ?_
    exact UInt8.toNat_inj.mp hbc

/-- A decoded text starts with a line feed only where the bytes do. -/
theorem head?_decodeLossy
    {bs : Bytes}
    (h : bs.head? ≠ some 0x0A) :
    (Utf8.decodeLossy bs).head? ≠ some '\n' := by
  cases bs with
  | nil =>
      simp
  | cons b bs =>
      intro hhead
      rw [Utf8.decodeLossy, Utf8.scan_cons, List.map_cons, List.head?_cons, Option.some.injEq] at hhead
      cases hfirst : (Utf8.takeChar b bs).1 with
      | none =>
          rw [hfirst] at hhead
          exact absurd hhead (by decide)
      | some c =>
          rw [hfirst] at hhead
          cases hhead
          have := Utf8.toNat_of_takeChar hfirst (by decide) (by decide)
          exact h (congrArg some (UInt8.toNat_inj.mp this))

/-- The lines that are read are those that lie in the bytes, decoded. -/
theorem fileLines_of_linesOf
    {lines : List Bytes} {bs : Bytes}
    (h : LinesOf lines bs) :
    fileLines bs = lines.map Utf8.decodeLossy := by
  have hfirst {line : Bytes} (hline : Endless line) (rest : List Char) :
      Text.lines (Utf8.decodeLossy line ++ '\n' :: rest) =
        Utf8.decodeLossy line :: Text.lines rest :=
    lines_append (onOneLine_decodeLossy hline).1 rest
  induction h with
  | none =>
      simp [fileLines, unifyLineEnds, Text.lines, linesWithEnds]
  | @last line hne hline =>
      obtain ⟨hfeed, hreturn⟩ := onOneLine_decodeLossy hline
      rw [fileLines, unifyLineEnds_of_not_mem hreturn, lines_of_not_mem _ hfeed]
      · rfl
      · rw [Utf8.decodeLossy, Ne, List.map_eq_nil_iff]
        cases line with
        | nil =>
            exact absurd rfl hne
        | cons b bs =>
            rw [Utf8.scan_cons]
            exact List.cons_ne_nil _ _
  | cons hline hend hrest ih =>
      have hunify := unifyLineEnds_append (onOneLine_decodeLossy hline).2
      rw [fileLines] at ih
      rw [List.map_cons, ← ih, ← hfirst hline, fileLines]
      congr 1
      cases hend with
      | feed =>
          rw [List.singleton_append, Utf8.decodeLossy_append_plain (by decide), hunify]
          rfl
      | both =>
          rw [List.cons_append, Utf8.decodeLossy_append_plain (by decide), List.singleton_append,
            Utf8.decodeLossy_cons_plain (by decide), hunify]
          rfl
      | carriageReturn hhead =>
          rw [List.singleton_append, Utf8.decodeLossy_append_plain (by decide), hunify]
          exact congrArg _ (unifyLineEnds_return (head?_decodeLossy hhead))

end ByteLines

end Text
end Reckoner
