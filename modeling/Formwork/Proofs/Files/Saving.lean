import Formwork.Files.Basic

/-!
# Saved files

A text that was saved under a name is read back under it, if it has no carriage returns (`read_of_save`).  The name
resolves to the same place after the save: writing a file adds directories on its path, removes none, and the file
is not a directory of its own path.
-/
namespace Formwork
namespace Files

variable {files saved : Files} {name text place : String}

/-- A text without carriage returns is read as it was written. -/
theorem lineFeeds_of_notMem {s : List Char} (h : '\r' ∉ s) : lineFeeds s = s := by
  induction s with
  | nil => rfl
  | cons c rest ih =>
    rw [List.mem_cons, not_or] at h
    rw [lineFeeds]
    · rw [ih h.2]
    · exact fun _ hc _ => h.1 hc.symm
    · exact fun hc => h.1 hc.symm

/-! ### Places -/

theorem any_write (p : String → Bool) (files : Files) :
    (files.write name text).any (fun file => p file.1) = (files.any (fun file => p file.1) || p name) := by
  induction files with
  | nil => exact Bool.or_false _
  | cons file rest ih =>
    unfold write
    split
    · rename_i hname
      rw [List.any_cons, List.any_cons, ← hname, Bool.or_right_comm, Bool.or_self]
    · rw [List.any_cons, List.any_cons, ih, Bool.or_assoc]

/-- Writing a file makes directories of its proper prefixes. -/
theorem isDirectory_write (files : Files) (place : String) :
    (files.write name text).isDirectory place =
      (files.isDirectory place || (place ++ "/").toList.isPrefixOf name.toList) := by
  rw [isDirectory, any_write fun other => (place ++ "/").toList.isPrefixOf other.toList, isDirectory,
    Bool.or_assoc]

/-- A file is no directory of its own path. -/
theorem isDirectory_write_self (files : Files) (place : String) :
    (files.write place text).isDirectory place = files.isDirectory place := by
  have hself : (place ++ "/").toList.isPrefixOf place.toList = false := by
    rw [Bool.eq_false_iff, ne_eq, List.isPrefixOf_iff_prefix]
    intro hprefix
    have hlength := hprefix.length_le
    rw [String.toList_append, List.length_append] at hlength
    exact absurd hlength (Nat.not_le_of_lt (Nat.lt_add_of_pos_right (by decide)))
  rw [isDirectory_write, hself, Bool.or_false]

/-- A path that resolves still resolves to the same place after a write. -/
theorem walk_write {root : List Char} {steps : List (List Char)} {before : List (List Char)}
    (h : files.walk root before steps = .ok place) :
    (files.write name text).walk root before steps = .ok place := by
  induction steps generalizing before with
  | nil => exact h
  | cons step rest ih =>
    unfold walk at h ⊢
    simp only at h ⊢
    split at h
    · rename_i hdirectory
      rw [isDirectory_write, hdirectory, Bool.true_or, if_pos rfl]
      split at h
      · cases h
      · rename_i hshort
        rw [if_neg hshort]
        exact ih h
    · cases h

theorem place_write (other : String) (h : files.place other = .ok place) :
    (files.write name text).place other = .ok place := by
  unfold Files.place at h ⊢
  simp only at h ⊢
  split at h
  · cases h
  rename_i hchars
  rw [if_neg hchars]
  split at h
  · cases h
  rename_i hlength
  rw [if_neg hlength]
  exact walk_write h

/-- A name resolves to the same place after the file there is written. -/
theorem filePlace_write (h : files.filePlace name = .ok place) :
    (files.write place text).filePlace name = .ok place := by
  unfold filePlace at h ⊢
  rcases hplace : files.place name with fault | found
  · rw [hplace] at h
    cases h
  · rw [hplace] at h
    simp only at h
    split at h
    · cases h
    · rename_i hfile
      cases h
      rw [place_write name hplace]
      simp only [isDirectory_write_self, hfile]
      rfl

/-- A file that is read is at the place that its name resolves to. -/
theorem filePlace_of_read (h : files.read name = .ok text) : ∃ place, files.filePlace name = .ok place := by
  rcases hplace : files.filePlace name with problem | place
  · rw [read, hplace] at h
    cases h
  · exact ⟨place, rfl⟩

/-- A save succeeds exactly where the name resolves. -/
theorem save_eq (h : files.filePlace name = .ok place) :
    files.save name text = .ok (files.write place text) := by
  rw [save, h]
  rfl

/-- A save writes at the place that the name resolves to. -/
theorem filePlace_of_save (h : files.save name text = .ok saved) :
    ∃ place, files.filePlace name = .ok place ∧ saved = files.write place text := by
  rcases hplace : files.filePlace name with problem | place
  · rw [save, hplace] at h
    cases h
  · rw [save_eq hplace] at h
    exact ⟨place, rfl, (Except.ok.inj h).symm⟩

/-- **A saved text is read back under its name**, if it has no carriage returns. -/
theorem read_of_save (h : files.save name text = .ok saved) (hreturn : '\r' ∉ text.toList) :
    saved.read name = .ok text := by
  obtain ⟨place, hplace, rfl⟩ := filePlace_of_save h
  simp only [read, filePlace_write hplace, text?_write_self, lineFeeds_of_notMem hreturn,
    String.ofList_toList, bind, Except.bind, pure, Except.pure]

end Files
end Formwork
