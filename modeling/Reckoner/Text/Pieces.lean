/-!
# Pieces of a text

The pieces of a text between the occurrences of one character, and the text that pieces make up.

**Results.**
* `intercalate_pieces`: the pieces, joined by the character, are the text.
* `not_mem_of_mem_pieces`: no piece holds the character.
-/

namespace Reckoner
namespace Text

/-- The pieces between the occurrences of `sep`; two in a row have an empty piece between them. -/
def pieces (sep : Char) : List Char → List (List Char)
  | [] => [[]]
  | c :: rest =>
      if c = sep then [] :: pieces sep rest
      else
        match pieces sep rest with
        | [] => [[c]]
        | piece :: more => (c :: piece) :: more

/-- The pieces that are not empty. -/
def fullPieces (sep : Char) (cs : List Char) : List (List Char) :=
  (pieces sep cs).filter fun piece => !piece.isEmpty

theorem pieces_ne_nil (sep : Char) (cs : List Char) : pieces sep cs ≠ [] := by
  cases cs with
  | nil => simp [pieces]
  | cons c rest =>
    unfold pieces
    split
    · simp
    · split <;> simp

theorem intercalate_pieces (sep : Char) (cs : List Char) :
    [sep].intercalate (pieces sep cs) = cs := by
  induction cs with
  | nil => rfl
  | cons c rest ih =>
    unfold pieces
    split
    · rename_i h
      obtain ⟨piece, more, hp⟩ := List.exists_cons_of_ne_nil (pieces_ne_nil sep rest)
      rw [hp] at ih ⊢
      simp [List.intercalate, h] at ih ⊢
      exact ih
    · split
      · rename_i h
        exact absurd h (pieces_ne_nil sep rest)
      · rename_i piece more h
        rw [h] at ih
        rw [← ih]
        cases more <;> simp [List.intercalate]

theorem not_mem_of_mem_pieces (sep : Char) :
    ∀ {cs piece : List Char}, piece ∈ pieces sep cs → sep ∉ piece
  | [], piece, h => by
      simp [pieces] at h
      simp [h]
  | c :: rest, piece, h => by
      unfold pieces at h
      split at h
      · rcases List.mem_cons.mp h with rfl | h
        · simp
        · exact not_mem_of_mem_pieces sep h
      · rename_i hc
        split at h
        · rename_i hp
          exact absurd hp (pieces_ne_nil sep rest)
        · rename_i first more hp
          rcases List.mem_cons.mp h with rfl | h
          · have : sep ∉ first := not_mem_of_mem_pieces sep (show first ∈ pieces sep rest by rw [hp]; simp)
            simp only [List.mem_cons, not_or]
            exact ⟨fun h => hc h.symm, this⟩
          · exact not_mem_of_mem_pieces sep (show piece ∈ pieces sep rest by rw [hp]; simp [h])

end Text
end Reckoner
