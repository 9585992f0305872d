import Mathlib

/-!
# Directories

A directory maps names to contents. Files are created exclusively, replaced, and unlinked; a
listing is read in sorted order.
-/

/-- A directory of files with contents in `α`. -/
abbrev Directory (α : Type) := AList fun _ : String => α

namespace Directory

variable {α : Type} {directory : Directory α} {name other : String} {names : List String}
  {content : α}

/-- `O_CREAT | O_EXCL`: the file is created, unless its name is taken already. -/
def create (name : String) (content : α) (directory : Directory α) : Option (Directory α) :=
  if directory.lookup name = none then some (directory.insert name content) else none

/-- The directory after the names have been unlinked, one after the other. -/
def unlinkAll (names : List String) (directory : Directory α) : Directory α :=
  names.foldl (fun remaining name => remaining.erase name) directory

/-- `sorted(names)`: the names of the files in ascending order. -/
def sortedNames (directory : Directory α) : List String :=
  directory.keys.insertionSort (· ≤ ·)

/-- The directory with the same names, whose contents have gone through a function. -/
def mapValues {β : Type} (f : α → β) (directory : Directory α) : Directory β where
  entries := directory.entries.map fun entry => ⟨entry.1, f entry.2⟩
  nodupKeys := directory.nodupKeys.map₂ (fun _ => f) _

/-- An exclusive creation succeeds only under a free name, and inserts the new file. -/
theorem create_eq_some {created : Directory α} (h : directory.create name content = some created) :
    directory.lookup name = none ∧ created = directory.insert name content := by
  unfold create at h
  split at h
  · next hnone => exact ⟨hnone, (Option.some.inj h).symm⟩
  · cases h

/-- What a directory holds after a file was written. -/
theorem lookup_insert_eq_some {found : α}
    (h : (directory.insert name content).lookup other = some found) :
    other = name ∧ found = content ∨ other ≠ name ∧ directory.lookup other = some found := by
  by_cases heq : other = name
  · subst heq
    rw [AList.lookup_insert] at h
    exact .inl ⟨rfl, (Option.some.inj h).symm⟩
  · rw [AList.lookup_insert_ne heq] at h
    exact .inr ⟨heq, h⟩

/-- What a directory holds after a file was removed, it held before. -/
theorem lookup_erase_eq_some {found : α} (h : (directory.erase name).lookup other = some found) :
    other ≠ name ∧ directory.lookup other = some found := by
  by_cases heq : other = name
  · subst heq
    rw [AList.lookup_erase] at h
    cases h
  · rw [AList.lookup_erase_ne heq] at h
    exact ⟨heq, h⟩

/-- Unlinking removes the names and nothing else. -/
theorem lookup_unlink_all (names : List String) (directory : Directory α) :
    (directory.unlinkAll names).lookup other =
      if other ∈ names then none else directory.lookup other := by
  induction names generalizing directory with
  | nil => simp [unlinkAll]
  | cons name names ih =>
      show (unlinkAll names (directory.erase name)).lookup other = _
      rw [ih]
      by_cases hother : other = name
      · subst hother
        simp [AList.lookup_erase]
      · simp [hother, AList.lookup_erase_ne hother]

/-- The sorted listing names exactly the files that a lookup finds. -/
theorem mem_sorted_names : name ∈ directory.sortedNames ↔ directory.lookup name ≠ none := by
  rw [sortedNames, (List.perm_insertionSort _ _).mem_iff, ← AList.mem_keys, Ne,
    AList.lookup_eq_none, not_not]

/-- The sorted listing names each file once. -/
theorem sorted_names_nodup (directory : Directory α) : directory.sortedNames.Nodup :=
  (List.perm_insertionSort _ _).nodup_iff.mpr directory.keys_nodup

theorem sorted_names_sorted (directory : Directory α) : directory.sortedNames.SortedLE :=
  List.sortedLE_insertionSort

/-- A sorted list of the names is the listing. -/
theorem sorted_names_eq (hnodup : names.Nodup) (hsorted : names.SortedLE)
    (hmem : ∀ name, name ∈ names ↔ directory.lookup name ≠ none) :
    directory.sortedNames = names := by
  have hperm : directory.sortedNames.Perm names :=
    (List.perm_ext_iff_of_nodup directory.sorted_names_nodup hnodup).mpr
      fun name => mem_sorted_names.trans (hmem name).symm
  exact hperm.eq_of_sortedLE directory.sorted_names_sorted hsorted

/-- Two directories with the same names have the same sorted listing, whatever their contents. -/
theorem sorted_names_congr {β : Type} {directory : Directory α} {other : Directory β}
    (h : ∀ name, directory.lookup name = none ↔ other.lookup name = none) :
    directory.sortedNames = other.sortedNames :=
  sorted_names_eq other.sorted_names_nodup other.sorted_names_sorted fun name => by
    rw [mem_sorted_names, Ne, Ne, h name]

@[simp] theorem lookup_map_values {β : Type} (f : α → β) (directory : Directory α) :
    (directory.mapValues f).lookup name = (directory.lookup name).map f :=
  List.dlookup_map₂ (f := fun _ => f) name

@[simp] theorem sorted_names_map_values {β : Type} (f : α → β) (directory : Directory α) :
    (directory.mapValues f).sortedNames = directory.sortedNames :=
  sorted_names_congr fun name => by simp

end Directory
