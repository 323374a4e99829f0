import Raid.Proofs.Files.Storing

/-!
Undoing what was done to a tree. A file that was written where nothing stood can be removed, and
permissions that were set can be set as they were; after either the tree has the entries that it had,
those of the root included.
-/

namespace Raid.FileTree

structure Same (first second : FileTree) : Prop where
  ground : second.ground = first.ground
  entries : ∀ location, second.entryAt? location = first.entryAt? location

namespace Same

variable {first second third : FileTree}

theorem refl (tree : FileTree) : Same tree tree := ⟨rfl, fun _ => rfl⟩

theorem trans (begun : Same first second) (ended : Same second third) : Same first third where
  ground := ended.ground.trans begun.ground
  entries location := (ended.entries location).trans (begun.entries location)

end Same

theorem findAt?_filter {location : Location} {keeps : Location × Entry → Bool}
    (kept : ∀ entry, keeps (location, entry) = true) (entries : List (Location × Entry)) :
    findAt? location (entries.filter keeps) = findAt? location entries := by
  induction entries with
  | nil => rfl
  | cons head rest ih =>
    obtain ⟨place, entry⟩ := head
    by_cases here : place = location
    · subst here
      simp [kept, findAt?]
    · rw [List.filter_cons]
      split <;> simp [findAt?, here, ih]

theorem findAt?_erased (location : Location) (entries : List (Location × Entry)) :
    findAt? location (entries.filter fun cell => cell.1 ≠ location) = none := by
  induction entries with
  | nil => rfl
  | cons head rest ih =>
    obtain ⟨place, entry⟩ := head
    by_cases here : place = location
    · simpa [List.filter_cons, here] using ih
    · simpa [List.filter_cons, here, findAt?] using ih

theorem entryAt?_erase (tree : FileTree) {location : Location} (other : Location)
    (below : location ≠ []) :
    (tree.erase location).entryAt? other =
      if other = location then none else tree.entryAt? other := by
  have kept (place : Location) (apart : place ≠ location) :
      findAt? place (tree.erase location).entries = findAt? place tree.entries :=
    findAt?_filter (fun _ => by simpa using apart) tree.entries
  simp only [entryAt?, rootPermissions, kept [] (Ne.symm below)]
  by_cases same : other = location
  · subst same
    rw [if_neg below, if_pos rfl]
    exact findAt?_erased other tree.entries
  · rw [if_neg same, kept other same]

section

variable {tree later : FileTree} {path : String}

/-- While directories stay, what stands at the end of a path is found there. -/
theorem lookup_kept {location : Location} {entry entry' : Entry}
    (found : tree.lookup path = .ok (location, entry))
    (home : later.workingDirectory = tree.workingDirectory)
    (stands : ∀ place ∈ tree.way path, Stands tree later place)
    (there : later.entryAt? location = some entry')
    (alike : entry'.isDirectory = entry.isDirectory) :
    later.lookup path = .ok (location, entry') := by
  unfold lookup at found ⊢
  cases located : tree.locate path with
  | error cause => simp [located] at found
  | ok place =>
    rw [locate_kept located home stands]
    simp only [located] at found ⊢
    cases here : tree.entryAt? place with
    | none => simp [here] at found
    | some old =>
      simp only [here] at found
      split at found
      · cases found
      · rename_i plain
        cases found
        rw [there]
        simp only [alike]
        rw [if_neg plain]

theorem found_of_lookup {location : Location} {entry : Entry}
    (found : tree.lookup path = .ok (location, entry)) :
    tree.locate path = .ok location ∧ tree.entryAt? location = some entry := by
  unfold lookup at found
  split at found
  · cases found
  · rename_i located
    split at found
    · cases found
    · rename_i here
      split at found <;> cases found
      exact ⟨located, here⟩

/-- A file that was written where nothing stood can be removed, and all is as it was. -/
theorem removeFile_of_write {content : String} {filled : FileTree}
    (written : tree.write path content = .ok filled)
    (bare : tree.entryAt? (tree.home path) = none) :
    ∃ after, filled.removeFile path = .ok after ∧ Same tree after := by
  obtain ⟨located, plain, permitted, whole, vacant⟩ := write_put written
  obtain ⟨bits, rfl⟩ : ∃ bits, filled = tree.put (tree.home path) (.file content bits) := ⟨_, whole⟩
  have below : tree.home path ≠ [] := below_of_vacant vacant
  have stored : tree.put (tree.home path) (.file content bits) |>.Stored path content :=
    stored_of_write written
  have found : (tree.put (tree.home path) (.file content bits)).lookup path =
      .ok (tree.home path, .file content bits) := by
    have here := entryAt?_put tree (tree.home path) (tree.home path) (.file content bits) below
    rw [if_pos rfl] at here
    have home : (tree.put (tree.home path) (.file content bits)).home path = tree.home path :=
      home_congr rfl path
    simp [lookup, stored.located, home, here, plain]
  refine ⟨(tree.put (tree.home path) (.file content bits)).erase (tree.home path),
    by simpa [removeFile, found] using permitted, rfl, fun location => ?_⟩
  rw [entryAt?_erase _ _ below, entryAt?_put _ _ _ _ below]
  split
  · rename_i same
    rw [same, bare]
  · rfl

theorem entryAt?_put_withPermissions {location : Location} {entry : Entry}
    (here : tree.entryAt? location = some entry) (bits : Permissions) (other : Location) :
    (tree.put location (entry.withPermissions bits)).entryAt? other =
      if other = location then some (entry.withPermissions bits) else tree.entryAt? other := by
  by_cases root : location = []
  · subst root
    simp only [entryAt?, ↓reduceIte, Option.some.injEq] at here
    subst here
    exact entryAt?_put_root tree other bits
  · exact entryAt?_put tree location other _ root

theorem stands_put_withPermissions {location : Location} {entry : Entry}
    (here : tree.entryAt? location = some entry) (bits : Permissions) (place : Location) :
    Stands tree (tree.put location (entry.withPermissions bits)) place := by
  intro old there
  rw [entryAt?_put_withPermissions here]
  split
  · rename_i same
    rw [same, here] at there
    cases there
    exact ⟨bits, rfl⟩
  · exact ⟨old, there⟩

/-- Permissions that were set can be set as they were, and all is as it was. -/
theorem setPermissions_of_setPermissions {before bits : Permissions} {marked : FileTree}
    (noted : tree.permissions path = .ok before) (set : tree.setPermissions path bits = .ok marked) :
    ∃ after, marked.setPermissions path before = .ok after ∧ Same tree after := by
  obtain ⟨location, entry, found, permitted, rfl⟩ := setPermissions_eq set
  have own : entry.permissions = before := by simpa [permissions, found, Except.map] using noted
  have here := (found_of_lookup found).2
  have there : (tree.put location (entry.withPermissions bits)).entryAt? location =
      some (entry.withPermissions bits) := by
    rw [entryAt?_put_withPermissions here, if_pos rfl]
  have again : (tree.put location (entry.withPermissions bits)).lookup path =
      .ok (location, entry.withPermissions bits) :=
    lookup_kept found rfl (fun place _ => stands_put_withPermissions here bits place) there
      (by cases entry <;> rfl)
  have back : (entry.withPermissions bits).withPermissions before = entry := by
    subst own
    cases entry <;> rfl
  refine ⟨(tree.put location (entry.withPermissions bits)).put location
      ((entry.withPermissions bits).withPermissions before), ?_, rfl, fun other => ?_⟩
  · simp only [setPermissions, again, changed_eq_ok, and_true]
    exact permitted
  · rw [entryAt?_put_withPermissions there, back, entryAt?_put_withPermissions here]
    split
    · rename_i same
      rw [same, here]
    · rfl

end

end Raid.FileTree
