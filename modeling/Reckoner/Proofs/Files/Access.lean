import Mathlib.Tactic.Common
import Reckoner.FileTree

/-!
# Access to files

A path is followed through directories alone, so what files hold does not matter to where it leads.
Whether a file can be written does not depend on what is written either.  After it is written it is
read back, and whatever other file could be written before can be written afterwards.

**Results.**
* `write_eq_ok_iff`: where a path has to lead for its file to be written.
* `read_eq_ok_iff`, `read_of_write`: where a file is read, and that what is written is read back.
* `opensAt_of_write`, `canWrite_of_write`: after a file is written, paths lead where they did before.
* `find?_of_write`, `read_of_write_elsewhere`: nothing changes elsewhere.
* `isAboutFiles_of_read`, `isAboutFiles_of_write`: only a path with a NUL fails as one that no file
  can have.
-/

namespace Reckoner

/-- Whether a path holds the character that no path can hold. -/
def Path.HoldsNul (path : String) : Prop :=
  Char.ofNat 0 ∈ path.toList

instance : DecidablePred Path.HoldsNul :=
  fun path => inferInstanceAs (Decidable (Char.ofNat 0 ∈ path.toList))

namespace FileTree

variable {t t' : FileTree}
variable {path : String}
variable {place : List String}

/-- Whether a path leads to a place where a file is or can be. -/
structure OpensAt (t : FileTree) (path : String) (place : List String) : Prop where
  located : t.locate path = .ok place
  noSlash : Path.endsInSlash path = false
  free : t.find? place ≠ some .directory

/-- A file is written at the place to which its path leads, if that is no directory. -/
theorem write_eq_ok_iff
    {content : Bytes} :
    t.write path content = .ok t' ↔
      ∃ place : List String, t.OpensAt path place ∧ t' = t.put place (.file content) := by
  constructor
  · intro h
    unfold write at h
    split at h
    · cases h
    · next place hlocated =>
        split at h
        · cases h
        · next hslash =>
            split at h
            · cases h
            · next hfree =>
                cases h
                exact ⟨place, ⟨hlocated, by simpa using hslash, hfree⟩, rfl⟩
  · rintro ⟨place, ⟨hlocated, hslash, hfree⟩, rfl⟩
    unfold write
    rw [hlocated]
    dsimp only
    rw [hslash]
    cases hfind : t.find? place with
    | none =>
        rfl
    | some entry =>
        cases entry with
        | file old =>
            rfl
        | directory =>
            exact absurd hfind hfree

/-- Whether the file of a path can be created or replaced. -/
def CanWrite (t : FileTree) (path : String) : Prop :=
  ∃ t' : FileTree, t.write path [] = .ok t'

theorem canWrite_iff :
    t.CanWrite path ↔ ∃ place : List String, t.OpensAt path place := by
  constructor
  · rintro ⟨t', hwrite⟩
    obtain ⟨place, hopens, -⟩ := write_eq_ok_iff.mp hwrite
    exact ⟨place, hopens⟩
  · rintro ⟨place, hopens⟩
    exact ⟨_, write_eq_ok_iff.mpr ⟨place, hopens, rfl⟩⟩

/-- Whatever is written can be written or not alike. -/
theorem CanWrite.exists_write
    (h : t.CanWrite path)
    (content : Bytes) :
    ∃ t' : FileTree, t.write path content = .ok t' := by
  obtain ⟨place, hopens⟩ := canWrite_iff.mp h
  exact ⟨_, write_eq_ok_iff.mpr ⟨place, hopens, rfl⟩⟩

theorem canWrite_of_write_eq_ok
    {content : Bytes}
    (h : t.write path content = .ok t') :
    t.CanWrite path := by
  obtain ⟨place, hopens, -⟩ := write_eq_ok_iff.mp h
  exact canWrite_iff.mpr ⟨place, hopens⟩

theorem exists_error_of_not_canWrite
    (h : ¬t.CanWrite path)
    (content : Bytes) :
    ∃ e : FileError, t.write path content = .error e := by
  cases hwrite : t.write path content with
  | error e =>
      exact ⟨e, rfl⟩
  | ok t' =>
      exact absurd (canWrite_of_write_eq_ok hwrite) h

/-- A file that cannot be written cannot be written with other content either, for the same reason. -/
theorem write_eq_error_of_write
    {content : Bytes}
    {e : FileError}
    (h : t.write path content = .error e)
    (other : Bytes) :
    t.write path other = .error e := by
  unfold write at h ⊢
  cases hlocate : t.locate path with
  | error f =>
      rw [hlocate] at h
      exact h
  | ok place =>
      rw [hlocate] at h
      dsimp only at h ⊢
      split
      · next hslash =>
          rwa [if_pos hslash] at h
      · next hslash =>
          rw [if_neg hslash] at h
          cases hfind : t.find? place with
          | none =>
              rw [hfind] at h
              cases h
          | some entry =>
              rw [hfind] at h
              cases entry with
              | file old =>
                  cases h
              | directory =>
                  exact h

section Directories

/-- Whether two trees have the same directories, and their home at the same place. -/
structure SameDirectories (t t' : FileTree) : Prop where
  home : t'.home = t.home
  directories : ∀ place : List String,
    t'.find? place = some .directory ↔ t.find? place = some .directory

theorem SameDirectories.symm
    (h : SameDirectories t t') :
    SameDirectories t' t :=
  ⟨h.home.symm, fun place => (h.directories place).symm⟩

/-- A path is followed alike through the same directories. -/
theorem SameDirectories.walk
    (h : SameDirectories t t')
    {parts : List String}
    {start : List String}
    (hwalk : t.walk path start parts = .ok place) :
    t'.walk path start parts = .ok place := by
  induction parts generalizing start with
  | nil =>
      exact hwalk
  | cons part parts ih =>
      unfold FileTree.walk at hwalk ⊢
      cases hstep : stepPlace path start part with
      | error e =>
          rw [hstep] at hwalk
          cases hwalk
      | ok next =>
          rw [hstep] at hwalk
          dsimp only at hwalk ⊢
          cases hfind : t.find? next with
          | none =>
              rw [hfind] at hwalk
              cases hwalk
          | some entry =>
              rw [hfind] at hwalk
              cases entry with
              | file content =>
                  cases hwalk
              | directory =>
                  rw [(h.directories next).mpr hfind]
                  exact ih hwalk

/-- So it leads to the same place. -/
theorem SameDirectories.locate
    (h : SameDirectories t t')
    (hlocate : t.locate path = .ok place) :
    t'.locate path = .ok place := by
  unfold FileTree.locate at hlocate ⊢
  rw [h.home]
  split at hlocate
  · cases hlocate
  · next hnul =>
      rw [if_neg hnul]
      split at hlocate
      · cases hlocate
      · next hlimit =>
          rw [if_neg hlimit]
          dsimp only at hlocate ⊢
          cases hlast : (Path.parts path).getLast? with
          | none =>
              rw [hlast] at hlocate
              exact hlocate
          | some last =>
              rw [hlast] at hlocate
              dsimp only at hlocate ⊢
              split at hlocate
              · cases hlocate
              · next directory hwalk =>
                  rw [h.walk hwalk]
                  exact hlocate

theorem SameDirectories.opensAt
    (h : SameDirectories t t')
    (hopens : t.OpensAt path place) :
    t'.OpensAt path place :=
  ⟨h.locate hopens.located, hopens.noSlash, fun hfind =>
    hopens.free ((h.directories place).mp hfind)⟩

/-- A file that is put where no directory is leaves the directories as they are. -/
theorem sameDirectories_put
    (h : t.find? place ≠ some .directory)
    (content : Bytes) :
    SameDirectories t (t.put place (.file content)) := by
  have hroot : place ≠ [] := by
    rintro rfl
    exact h rfl
  refine ⟨rfl, fun other => ?_⟩
  by_cases hother : other = place
  · subst hother
    rw [find?_put_self t hroot]
    simp [h]
  · rw [find?_put_of_ne t hother]

/-- After a file is written, paths open where they did before. -/
theorem opensAt_of_write
    {content : Bytes}
    (h : t.write path content = .ok t')
    (other : String)
    (place : List String) :
    t'.OpensAt other place ↔ t.OpensAt other place := by
  obtain ⟨written, hopens, rfl⟩ := write_eq_ok_iff.mp h
  -- no directory was at the place of the file, so paths lead through the same directories
  have hsame := sameDirectories_put hopens.free content
  exact ⟨hsame.symm.opensAt, hsame.opensAt⟩

theorem putEntry_putEntry
    (a b : Entry)
    (entries : List (List String × Entry)) :
    putEntry place b (putEntry place a entries) = putEntry place b entries := by
  induction entries with
  | nil =>
      simp [putEntry]
  | cons x rest ih =>
      by_cases hx : x.1 = place
      · simp [putEntry, hx]
      · simp [putEntry, hx, ih]

/-- Of two entries put at one place the second is left. -/
theorem put_put
    (a b : Entry) :
    (t.put place a).put place b = t.put place b := by
  simp [put, putEntry_putEntry]

/-- A file that is written twice has what was written last. -/
theorem write_of_write
    {content : Bytes}
    (h : t.write path content = .ok t')
    (last : Bytes) :
    ∃ t'' : FileTree, t'.write path last = .ok t'' ∧ t.write path last = .ok t'' := by
  obtain ⟨place, hopens, rfl⟩ := write_eq_ok_iff.mp h
  have hopens' := (opensAt_of_write h path place).mpr hopens
  exact ⟨t.put place (.file last),
    write_eq_ok_iff.mpr ⟨place, hopens', (put_put _ _).symm⟩,
    write_eq_ok_iff.mpr ⟨place, hopens, rfl⟩⟩

/-- So the same paths can be written. -/
theorem canWrite_of_write
    {content : Bytes}
    (h : t.write path content = .ok t')
    (other : String) :
    t'.CanWrite other ↔ t.CanWrite other := by
  rw [canWrite_iff, canWrite_iff]
  exact exists_congr (opensAt_of_write h other)

end Directories

/-- A file is read where its path opens. -/
theorem read_eq_ok_iff
    {content : Bytes} :
    t.read path = .ok content ↔
      ∃ place : List String, t.OpensAt path place ∧ t.find? place = some (.file content) := by
  constructor
  · intro h
    unfold read at h
    split at h
    · cases h
    · next place hlocated =>
        split at h
        · next hfind =>
            split at h
            · cases h
            · next hslash =>
                cases h
                exact ⟨place, ⟨hlocated, by simpa using hslash, by simp [hfind]⟩, hfind⟩
        · cases h
        · cases h
  · rintro ⟨place, ⟨hlocated, hslash, -⟩, hfind⟩
    unfold read
    rw [hlocated]
    dsimp only
    rw [hfind]
    simp [hslash]

/-- What is written is read back. -/
theorem read_of_write
    {content : Bytes}
    (h : t.write path content = .ok t') :
    t'.read path = .ok content := by
  obtain ⟨place, hopens, rfl⟩ := write_eq_ok_iff.mp h
  have hroot : place ≠ [] := by
    rintro rfl
    exact hopens.free rfl
  exact read_eq_ok_iff.mpr
    ⟨place, (opensAt_of_write h path place).mpr hopens, find?_put_self t hroot _⟩

/-- Nothing changes but at the place where a file is written. -/
theorem find?_of_write
    {content : Bytes}
    (h : t.write path content = .ok t')
    (hplace : ¬t.OpensAt path place) :
    t'.find? place = t.find? place := by
  obtain ⟨written, hopens, rfl⟩ := write_eq_ok_iff.mp h
  refine find?_put_of_ne t ?_ _
  rintro rfl
  exact hplace hopens

/-- So a file at another place is read as before. -/
theorem read_of_write_elsewhere
    {content old : Bytes}
    {other : String}
    (h : t.write path content = .ok t')
    (helsewhere : ∀ place : List String, t.OpensAt other place → ¬t.OpensAt path place)
    (hread : t.read other = .ok old) :
    t'.read other = .ok old := by
  obtain ⟨place, hopens, hfind⟩ := read_eq_ok_iff.mp hread
  refine read_eq_ok_iff.mpr ⟨place, (opensAt_of_write h other place).mpr hopens, ?_⟩
  rw [find?_of_write h (helsewhere place hopens), hfind]

/-- A file that is read is reached. -/
theorem reaches_of_read
    {content : Bytes}
    (h : t.read path = .ok content) :
    t.reaches path = .ok true := by
  unfold read at h
  unfold reaches
  split at h
  · cases h
  · next place hlocated =>
      rw [hlocated]
      dsimp only
      split at h
      · split at h
        · cases h
        · next hslash =>
            simp [hslash]
      · cases h
      · cases h

section Errors

variable {e : FileError}

/-- A part of a path fails for its name. -/
theorem isAboutFiles_of_stepPlace
    {part : String}
    (h : stepPlace path place part = .error e) :
    e.isAboutFiles = true := by
  unfold stepPlace at h
  split_ifs at h
  cases h
  rfl

theorem isAboutFiles_of_walk
    {parts : List String}
    (h : t.walk path place parts = .error e) :
    e.isAboutFiles = true := by
  induction parts generalizing place with
  | nil =>
      cases h
  | cons part parts ih =>
      unfold walk at h
      split at h
      · next hstep =>
          cases h
          exact isAboutFiles_of_stepPlace hstep
      · split at h
        · exact ih h
        · cases h
          rfl
        · cases h
          rfl

/-- A path without a NUL fails for the files there are. -/
theorem isAboutFiles_of_locate
    (hnul : ¬Path.HoldsNul path)
    (h : t.locate path = .error e) :
    e.isAboutFiles = true := by
  have hcontains : ¬path.toList.contains (Char.ofNat 0) = true := by
    rw [List.contains_iff_mem]
    exact hnul
  unfold locate at h
  rw [if_neg hcontains] at h
  split at h
  · cases h
    rfl
  · dsimp only at h
    split at h
    · split at h
      · cases h
      · cases h
        rfl
    · split at h
      · next hwalk =>
          cases h
          exact isAboutFiles_of_walk hwalk
      · exact isAboutFiles_of_stepPlace h

theorem locate_of_nul
    (h : Path.HoldsNul path) :
    t.locate path = .error .nulInPath :=
  if_pos (List.contains_iff_mem.mpr h)

theorem read_of_nul
    (h : Path.HoldsNul path) :
    t.read path = .error .nulInPath := by
  rw [read, locate_of_nul h]

theorem write_of_nul
    (h : Path.HoldsNul path)
    (content : Bytes) :
    t.write path content = .error .nulInPath := by
  rw [write, locate_of_nul h]

theorem isAboutFiles_of_read
    (hnul : ¬Path.HoldsNul path)
    (h : t.read path = .error e) :
    e.isAboutFiles = true := by
  unfold read at h
  split at h
  · next hlocate =>
      cases h
      exact isAboutFiles_of_locate hnul hlocate
  · split at h
    · split at h <;> cases h
      rfl
    · cases h
      rfl
    · cases h
      rfl

theorem isAboutFiles_of_write
    {content : Bytes}
    (hnul : ¬Path.HoldsNul path)
    (h : t.write path content = .error e) :
    e.isAboutFiles = true := by
  unfold write at h
  split at h
  · next hlocate =>
      cases h
      exact isAboutFiles_of_locate hnul hlocate
  · split at h
    · cases h
      rfl
    · split at h <;> cases h
      rfl

end Errors

end FileTree
end Reckoner
