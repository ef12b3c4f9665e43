import Reckoner.Proofs.Json.IntegerText
import Reckoner.Proofs.Json.StringText

/-!
# Reading what is printed

A value is printed without loss if it has no floating-point numbers, no two members of one name in an
object, no integer that is too long for the reader, and only strings whose halves stand apart.  It is read
back from its text, at whatever level of nesting it is printed and whatever follows it, unless that could
belong to a number.  The reader bounds its own depth by the length of the text, and every level of the
text takes more characters than the reader takes steps.

**Results.**
* `readValue_array`, `readItems_next`, `readMembers_next`: what the readers do at one place, for any
  text there.
* `ReadsBack`: a value is read back at every place.
* `Lossless.readsBack`: so is every value that is printed without loss.
* `read_print`: the whole text of such a value.
-/

namespace Reckoner
namespace Json

/-- Values that are printed without loss for a reader of integers of up to `longest` digits. -/
inductive Lossless (longest : Option Nat) : Json → Prop
  | null :
      Lossless longest .null
  | boolean
      (b : Bool) :
      Lossless longest (.boolean b)
  | integer
      {n : Int}
      (hn : ∀ m ∈ longest, (Nat.toDigits 10 n.natAbs).length ≤ m) :
      Lossless longest (.integer n)
  | string
      {s : CodeString}
      (hs : Apart s) :
      Lossless longest (.string s)
  | array
      {items : List Json}
      (hitems : ∀ v ∈ items, Lossless longest v) :
      Lossless longest (.array items)
  | object
      {members : List (CodeString × Json)}
      (hnames : (members.map Prod.fst).Nodup)
      (hapart : ∀ m ∈ members, Apart m.1)
      (hmembers : ∀ m ∈ members, Lossless longest m.2) :
      Lossless longest (.object members)

variable {longest : Option Nat}

section Blanks

variable {c : Char}

theorem skipSpace_cons
    (h : isSpace c = false)
    (cs : List Char) :
    skipSpace (c :: cs) = c :: cs :=
  List.dropWhile_cons_of_neg (by simp [h])

/-- A new line and its indentation are blanks. -/
theorem skipSpace_newLine
    (level : Nat)
    (cs : List Char) :
    skipSpace (newLine level ++ cs) = skipSpace cs := by
  refine List.dropWhile_append_of_pos ?_
  intro c hc
  rcases List.mem_cons.mp hc with rfl | hc
  · rfl
  · rw [(List.mem_replicate.mp hc).2]
    rfl

/-- No number goes on in a new line. -/
theorem endsNumber_newLine
    (level : Nat)
    (cs : List Char) :
    EndsNumber (newLine level ++ cs) := by
  intro c hc
  obtain rfl := Option.some.inj hc
  rfl

/-- A text starts with a character that starts a value. -/
def StartsValue (cs : List Char) : Prop :=
  ∃ c rest, cs = c :: rest ∧ isSpace c = false ∧ c ≠ ']'

theorem StartsValue.skipSpace_append
    {cs : List Char}
    (h : StartsValue cs)
    (rest : List Char) :
    skipSpace (cs ++ rest) = cs ++ rest := by
  obtain ⟨c, ds, rfl, hspace, -⟩ := h
  exact skipSpace_cons hspace _

theorem StartsValue.append
    {cs : List Char}
    (h : StartsValue cs)
    (rest : List Char) :
    StartsValue (cs ++ rest) := by
  obtain ⟨c, ds, rfl, hc⟩ := h
  exact ⟨c, ds ++ rest, rfl, hc⟩

/-- The text of a value starts so. -/
theorem startsValue_printAt
    {v : Json}
    (h : Lossless longest v)
    (level : Nat) :
    StartsValue (printAt level v) := by
  cases h with
  | null =>
      exact ⟨_, _, rfl, rfl, by decide⟩
  | boolean b =>
      cases b <;> exact ⟨_, _, rfl, rfl, by decide⟩
  | @integer n _ =>
      obtain ⟨d, ds, hd, -, htext | htext⟩ := repr_cases n
      · refine ⟨d, ds, htext, ?_, ?_⟩
        · by_contra hspace
          simp only [isSpace, Bool.not_eq_false, Bool.or_eq_true, beq_iff_eq] at hspace
          rcases hspace with ((rfl | rfl) | rfl) | rfl <;> exact absurd hd (by decide)
        · rintro rfl
          exact absurd hd (by decide)
      · exact ⟨_, _, htext, rfl, by decide⟩
  | string =>
      exact ⟨_, _, rfl, rfl, by decide⟩
  | @array items _ =>
      cases items <;> exact ⟨_, _, rfl, rfl, by decide⟩
  | @object members _ _ _ =>
      cases members <;> exact ⟨_, _, rfl, rfl, by decide⟩

end Blanks

section Steps

variable {fuel : Nat}
variable {cs rest rest' : List Char}
variable {v : Json}
variable {name : CodeString}

theorem printString_append
    (s : CodeString)
    (rest : List Char) :
    printString s ++ rest = '\x22' :: (s.flatMap escapePoint ++ '\x22' :: rest) := by
  simp [printString]

/-- A string. -/
theorem readValue_string
    {s : CodeString}
    (hs : Apart s)
    (fuel : Nat)
    (rest : List Char) :
    readValue longest (fuel + 1) (printString s ++ rest) = .ok (.string s, rest) := by
  rw [printString_append, readValue, readString_flatMap hs]
  rfl

/-- A word or a number. -/
theorem readValue_scalar
    {c : Char}
    (hquote : c ≠ '\x22')
    (hbracket : c ≠ '[')
    (hbrace : c ≠ '\x7b') :
    readValue longest (fuel + 1) (c :: cs) = readScalar longest (c :: cs) := by
  rw [readValue.eq_def]
  split
  · next h => cases h
  · next h => exact absurd (List.cons.inj h).1 hquote
  · next h => exact absurd (List.cons.inj h).1 hbracket
  · next h => exact absurd (List.cons.inj h).1 hbrace
  · rfl

/-- An array that is not empty. -/
theorem readValue_array
    (h : StartsValue (skipSpace cs)) :
    readValue longest (fuel + 1) ('[' :: cs) =
      (readItems longest fuel (skipSpace cs)).map fun r => (.array r.1, r.2) := by
  obtain ⟨c, ds, hskip, -, hbracket⟩ := h
  rw [readValue, hskip]
  split
  · next h => exact absurd (List.cons.inj h).1 hbracket
  · rfl

/-- A name is no blank. -/
theorem skipSpace_printString
    (name : CodeString)
    (rest : List Char) :
    skipSpace (printString name ++ rest) = printString name ++ rest := by
  rw [printString_append]
  exact skipSpace_cons (by decide) _

/-- An object that is not empty. -/
theorem readValue_object
    (h : skipSpace cs = printString name ++ rest) :
    readValue longest (fuel + 1) ('\x7b' :: cs) =
      (readMembers longest fuel (printString name ++ rest)).map fun r => (ofMembers r.1, r.2) := by
  rw [readValue, h, printString_append]
  rfl

/-- The last item of an array. -/
theorem readItems_last
    (hv : readValue longest fuel cs = .ok (v, rest))
    (hend : skipSpace rest = ']' :: rest') :
    readItems longest (fuel + 1) cs = .ok ([v], rest') := by
  rw [readItems, hv]
  dsimp only
  rw [hend]
  rfl

/-- Any other item. -/
theorem readItems_next
    (hv : readValue longest fuel cs = .ok (v, rest))
    (hcomma : skipSpace rest = ',' :: rest') :
    readItems longest (fuel + 1) cs =
      (readItems longest fuel (skipSpace rest')).map fun r => (v :: r.1, r.2) := by
  rw [readItems, hv]
  dsimp only
  rw [hcomma]
  rfl

/-- The space after the colon of a member is passed over. -/
theorem skipSpace_colon
    (h : StartsValue cs) :
    skipSpace (' ' :: cs) = cs := by
  have hcs := h.skipSpace_append []
  rw [List.append_nil] at hcs
  exact hcs

/-- The last member of an object. -/
theorem readMembers_last
    (hname : Apart name)
    (hstart : StartsValue cs)
    (hv : readValue longest fuel cs = .ok (v, rest))
    (hend : skipSpace rest = '\x7d' :: rest') :
    readMembers longest (fuel + 1) (printString name ++ ':' :: ' ' :: cs) = .ok ([(name, v)], rest') := by
  rw [printString_append, readMembers, readString_flatMap hname]
  simp only [skipSpace_cons (c := ':') rfl]
  rw [skipSpace_colon hstart, hv]
  dsimp only
  rw [hend]
  rfl

/-- Any other member. -/
theorem readMembers_next
    (hname : Apart name)
    (hstart : StartsValue cs)
    (hv : readValue longest fuel cs = .ok (v, rest))
    (hcomma : skipSpace rest = ',' :: rest') :
    readMembers longest (fuel + 1) (printString name ++ ':' :: ' ' :: cs) =
      (readMembers longest fuel (skipSpace rest')).map fun r => ((name, v) :: r.1, r.2) := by
  rw [printString_append, readMembers, readString_flatMap hname]
  simp only [skipSpace_cons (c := ':') rfl]
  rw [skipSpace_colon hstart, hv]
  dsimp only
  rw [hcomma]
  rfl

end Steps

/-- A value is read back wherever it is printed, if the reader may take as many steps as its text has
characters. -/
def ReadsBack (longest : Option Nat) (v : Json) : Prop :=
  ∀ (level fuel : Nat) (rest : List Char),
    (printAt level v).length ≤ fuel →
    EndsNumber rest →
    readValue longest fuel (printAt level v ++ rest) = .ok (v, rest)

section Places

variable {level : Nat}

/-- A comma ends a number. -/
theorem endsNumber_comma
    (cs : List Char) :
    EndsNumber (',' :: cs) := by
  intro c hc
  obtain rfl := Option.some.inj hc
  rfl

theorem printItems_cons_append
    (level : Nat)
    (v : Json)
    (items : List Json)
    (rest : List Char) :
    printItems level (v :: items) ++ rest =
      ',' :: (newLine level ++ (printAt level v ++ (printItems level items ++ rest))) := by
  simp [printItems]

theorem printMembers_cons_append
    (level : Nat)
    (name : CodeString)
    (v : Json)
    (members : List (CodeString × Json))
    (rest : List Char) :
    printMembers level ((name, v) :: members) ++ rest =
      ',' :: (newLine level ++ (printString name ++ ':' :: ' ' ::
        (printAt level v ++ (printMembers level members ++ rest)))) := by
  simp [printMembers]

/-- The items of an array are read back. -/
theorem readItems_print
    {v : Json}
    {items : List Json}
    (hstart : ∀ w ∈ items, StartsValue (printAt level w))
    (hv : ReadsBack longest v)
    (hitems : ∀ w ∈ items, ReadsBack longest w)
    {fuel : Nat}
    (hfuel : (printAt level v).length + (printItems level items).length ≤ fuel)
    (outer : Nat)
    (rest : List Char) :
    readItems longest (fuel + 1)
        (printAt level v ++ (printItems level items ++ (newLine outer ++ ']' :: rest))) =
      .ok (v :: items, rest) := by
  have hread := fun rest => hv level fuel rest (by omega)
  induction items generalizing v fuel with
  | nil =>
      refine readItems_last (hread _ (endsNumber_newLine _ _)) ?_
      rw [printItems, List.nil_append, skipSpace_newLine]
      exact skipSpace_cons (by decide) _
  | cons w items ih =>
      rw [List.forall_mem_cons] at hstart hitems
      simp only [printItems, List.length_append, List.length_cons] at hfuel
      obtain ⟨fuel, rfl⟩ : ∃ k, fuel = k + 1 := ⟨fuel - 1, by omega⟩
      have hrest := @ih w hstart.2 hitems.1 hitems.2 fuel (by omega)
        fun rest => hitems.1 level fuel rest (by omega)
      rw [printItems_cons_append, readItems_next (hread _ (endsNumber_comma _))
        (skipSpace_cons (by decide) _), skipSpace_newLine, hstart.1.skipSpace_append, hrest]
      rfl

/-- So are the members of an object. -/
theorem readMembers_print
    {name : CodeString}
    {v : Json}
    {members : List (CodeString × Json)}
    (hname : Apart name)
    (hnames : ∀ m ∈ members, Apart m.1)
    (hstart : StartsValue (printAt level v))
    (hstarts : ∀ m ∈ members, StartsValue (printAt level m.2))
    (hv : ReadsBack longest v)
    (hmembers : ∀ m ∈ members, ReadsBack longest m.2)
    {fuel : Nat}
    (hfuel : (printAt level v).length + (printMembers level members).length ≤ fuel)
    (outer : Nat)
    (rest : List Char) :
    readMembers longest (fuel + 1)
        (printString name ++ ':' :: ' ' ::
          (printAt level v ++ (printMembers level members ++ (newLine outer ++ '\x7d' :: rest)))) =
      .ok ((name, v) :: members, rest) := by
  have hread := fun rest => hv level fuel rest (by omega)
  induction members generalizing name v fuel with
  | nil =>
      refine readMembers_last hname (hstart.append _) (hread _ (endsNumber_newLine _ _)) ?_
      rw [printMembers, List.nil_append, skipSpace_newLine]
      exact skipSpace_cons (by decide) _
  | cons m members ih =>
      obtain ⟨name', w⟩ := m
      rw [List.forall_mem_cons] at hnames hstarts hmembers
      simp only [printMembers, List.length_append, List.length_cons] at hfuel
      obtain ⟨fuel, rfl⟩ : ∃ k, fuel = k + 1 := ⟨fuel - 1, by omega⟩
      dsimp only at hnames hstarts hmembers
      have hrest := @ih name' w hnames.1 hnames.2 hstarts.1 hstarts.2 hmembers.1 hmembers.2 fuel (by omega)
        fun rest => hmembers.1 level fuel rest (by omega)
      rw [printMembers_cons_append, readMembers_next hname (hstart.append _)
        (hread _ (endsNumber_comma _)) (skipSpace_cons (by decide) _), skipSpace_newLine,
        skipSpace_printString, hrest]
      rfl

end Places

section Objects

variable {members : List (CodeString × Json)}

/-- A member with a new name is put at the end. -/
theorem put_of_not_mem
    {name : CodeString}
    (h : name ∉ members.map Prod.fst)
    (v : Json) :
    put name v members = members ++ [(name, v)] := by
  induction members with
  | nil =>
      rfl
  | cons m members ih =>
      rw [List.map_cons, List.mem_cons, not_or] at h
      rw [put, if_neg (Ne.symm h.1), ih h.2, List.cons_append]

/-- Members of different names are put one after the other. -/
theorem foldl_put_of_nodup
    {done : List (CodeString × Json)}
    (h : ((done ++ members).map Prod.fst).Nodup) :
    members.foldl (fun done m => put m.1 m.2 done) done = done ++ members := by
  induction members generalizing done with
  | nil =>
      rw [List.foldl_nil, List.append_nil]
  | cons m members ih =>
      rw [List.append_cons] at h ⊢
      have hnew : m.1 ∉ done.map Prod.fst := by
        rw [List.map_append, List.map_append, List.append_assoc, List.nodup_append] at h
        exact fun hmem => h.2.2 m.1 hmem m.1 (by simp) rfl
      rw [List.foldl_cons, put_of_not_mem hnew]
      exact ih h

/-- Such members make up the object. -/
theorem ofMembers_of_nodup
    (h : (members.map Prod.fst).Nodup) :
    ofMembers members = .object members := by
  rw [ofMembers, foldl_put_of_nodup (by rwa [List.nil_append]), List.nil_append]

end Objects

/-- A word or a number is read back if it is read as such. -/
theorem readsBack_of_readScalar
    {v : Json}
    {c : Char}
    {cs : List Char}
    (htext : ∀ level, printAt level v = c :: cs)
    (hquote : c ≠ '\x22')
    (hbracket : c ≠ '[')
    (hbrace : c ≠ '\x7b')
    (hread : ∀ rest, EndsNumber rest → readScalar longest (c :: cs ++ rest) = .ok (v, rest)) :
    ReadsBack longest v := by
  intro level fuel rest hfuel hrest
  rw [htext, List.length_cons] at hfuel
  obtain ⟨fuel, rfl⟩ : ∃ k, fuel = k + 1 := ⟨fuel - 1, by omega⟩
  rw [htext, List.cons_append, readValue_scalar hquote hbracket hbrace]
  exact hread rest hrest

/-- An integer is read back as one, with a sign at its start or a digit. -/
theorem readsBack_integer
    {n : Int}
    (hn : ∀ m ∈ longest, (Nat.toDigits 10 n.natAbs).length ≤ m) :
    ReadsBack longest (.integer n) := by
  have hread := readScalar_integer hn
  obtain ⟨d, ds, hd, -, htext | htext⟩ := repr_cases n
  · have hne : ∀ c : Char, c.isDigit = false → d ≠ c := by
      rintro c hc rfl
      rw [hd] at hc
      cases hc
    rw [htext] at hread
    exact readsBack_of_readScalar (fun _ => htext) (hne _ rfl) (hne _ rfl) (hne _ rfl) hread
  · rw [htext] at hread
    exact readsBack_of_readScalar (fun _ => htext) (by decide) (by decide) (by decide) hread

/-- An array of values that are read back is read back. -/
theorem readsBack_array
    {v : Json}
    {items : List Json}
    (hstart : ∀ level, StartsValue (printAt level v))
    (hstarts : ∀ level, ∀ w ∈ items, StartsValue (printAt level w))
    (hv : ReadsBack longest v)
    (hitems : ∀ w ∈ items, ReadsBack longest w) :
    ReadsBack longest (.array (v :: items)) := by
  intro level fuel rest hfuel _
  simp only [printAt, List.length_append, List.length_cons] at hfuel
  obtain ⟨fuel, rfl⟩ : ∃ k, fuel = k + 2 := ⟨fuel - 2, by omega⟩
  have htext :
      printAt level (.array (v :: items)) ++ rest =
        '[' :: (newLine (level + 1) ++ (printAt (level + 1) v ++
          (printItems (level + 1) items ++ (newLine level ++ ']' :: rest)))) := by
    simp [printAt]
  have hskip : ∀ cs : List Char,
      skipSpace (newLine (level + 1) ++ (printAt (level + 1) v ++ cs)) =
        printAt (level + 1) v ++ cs := by
    intro cs
    rw [skipSpace_newLine, (hstart _).skipSpace_append]
  have hread :=
    @readItems_print longest (level + 1) v items (hstarts _) hv hitems fuel (by omega) level rest
  rw [htext, readValue_array, hskip, hread]
  · rfl
  · rw [hskip]
    exact (hstart _).append _

/-- So is an object of members of different names. -/
theorem readsBack_object
    {name : CodeString}
    {v : Json}
    {members : List (CodeString × Json)}
    (hstart : ∀ level, StartsValue (printAt level v))
    (hstarts : ∀ level, ∀ m ∈ members, StartsValue (printAt level m.2))
    (hnames : (((name, v) :: members).map Prod.fst).Nodup)
    (hname : Apart name)
    (hapart : ∀ m ∈ members, Apart m.1)
    (hv : ReadsBack longest v)
    (hmembers : ∀ m ∈ members, ReadsBack longest m.2) :
    ReadsBack longest (.object ((name, v) :: members)) := by
  intro level fuel rest hfuel _
  simp only [printAt, List.length_append, List.length_cons] at hfuel
  obtain ⟨fuel, rfl⟩ : ∃ k, fuel = k + 2 := ⟨fuel - 2, by omega⟩
  have htext :
      printAt level (.object ((name, v) :: members)) ++ rest =
        '\x7b' :: (newLine (level + 1) ++ (printString name ++ ':' :: ' ' ::
          (printAt (level + 1) v ++
            (printMembers (level + 1) members ++ (newLine level ++ '\x7d' :: rest))))) := by
    simp [printAt]
  have hskip : ∀ cs : List Char,
      skipSpace (newLine (level + 1) ++ (printString name ++ cs)) = printString name ++ cs := by
    intro cs
    rw [skipSpace_newLine, skipSpace_printString]
  have hread :=
    @readMembers_print longest (level + 1) name v members hname hapart (hstart _) (hstarts _) hv
      hmembers fuel (by omega) level rest
  rw [htext, readValue_object (hskip _), hread, Except.map, ofMembers_of_nodup hnames]

/-- A value that is printed without loss is read back. -/
theorem Lossless.readsBack
    {v : Json}
    (h : Lossless longest v) :
    ReadsBack longest v := by
  induction h with
  | null =>
      exact readsBack_of_readScalar (fun _ => rfl) (by decide) (by decide) (by decide)
        fun rest _ => readScalar_null _ rest
  | boolean b =>
      cases b with
      | false =>
          exact readsBack_of_readScalar (fun _ => rfl) (by decide) (by decide) (by decide)
            fun rest _ => readScalar_false _ rest
      | true =>
          exact readsBack_of_readScalar (fun _ => rfl) (by decide) (by decide) (by decide)
            fun rest _ => readScalar_true _ rest
  | integer hn =>
      exact readsBack_integer hn
  | string hs =>
      intro level fuel rest hfuel _
      rw [printAt, printString, List.cons_append, List.length_cons] at hfuel
      obtain ⟨fuel, rfl⟩ : ∃ k, fuel = k + 1 := ⟨fuel - 1, by omega⟩
      rw [printAt]
      exact readValue_string hs fuel rest
  | @array items hlossless ih =>
      cases items with
      | nil =>
          intro level fuel rest hfuel _
          simp only [printAt, List.length_cons] at hfuel
          obtain ⟨fuel, rfl⟩ : ∃ k, fuel = k + 1 := ⟨fuel - 1, by omega⟩
          rfl
      | cons v items =>
          rw [List.forall_mem_cons] at hlossless ih
          exact readsBack_array (startsValue_printAt hlossless.1)
            (fun level w hw => startsValue_printAt (hlossless.2 w hw) level) ih.1 ih.2
  | @object members hnames hapart hlossless ih =>
      cases members with
      | nil =>
          intro level fuel rest hfuel _
          simp only [printAt, List.length_cons] at hfuel
          obtain ⟨fuel, rfl⟩ : ∃ k, fuel = k + 1 := ⟨fuel - 1, by omega⟩
          rfl
      | cons m members =>
          rw [List.forall_mem_cons] at hapart hlossless ih
          exact readsBack_object (startsValue_printAt hlossless.1)
            (fun level w hw => startsValue_printAt (hlossless.2 w hw) level) hnames hapart.1 hapart.2
            ih.1 ih.2

/-- The whole text of a value that is printed without loss is read as the value, with blanks after it or
not. -/
theorem read_print
    {v : Json}
    (h : Lossless longest v)
    {blanks : List Char}
    (hblanks : ∀ c ∈ blanks, isSpace c = true) :
    readWithin longest (v.print.toList ++ blanks) = .ok v := by
  have hends : EndsNumber blanks := by
    intro c hc
    have hspace := hblanks c (List.mem_of_head? hc)
    simp only [isSpace, Bool.or_eq_true, beq_iff_eq] at hspace
    rcases hspace with ((rfl | rfl) | rfl) | rfl <;> rfl
  have hskip : skipSpace blanks = [] :=
    List.dropWhile_eq_nil_iff.mpr hblanks
  have hread := h.readsBack 0 (2 * (printAt 0 v ++ blanks).length + 2) blanks (by
    rw [List.length_append]
    omega) hends
  rw [readWithin, print, String.toList_ofList, (startsValue_printAt h 0).skipSpace_append, hread]
  dsimp only
  rw [hskip]
  rfl

end Json
end Reckoner
