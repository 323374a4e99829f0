import Raid.Proofs.Files.Tree

/-!
What it takes for a file to be read back. A file stands at the end of a way of directories; it goes
on to be read as it was written while the directories on its way stay and nothing else is written
to its own place. It can then be written over, since the directories above it are there.
-/

namespace Raid.FileTree

variable {tree later filled : FileTree} {path content : String}

/-- Where a directory stood there is one still. -/
def Stands (tree later : FileTree) (location : Location) : Prop :=
  ∀ bits, tree.entryAt? location = some (.directory bits) →
    ∃ bits, later.entryAt? location = some (.directory bits)

def way (tree : FileTree) (path : String) : List Location := tree.start path :: tree.trail path

theorem way_congr (same : later.workingDirectory = tree.workingDirectory) (path : String) :
    later.way path = tree.way path := by
  rw [way, way, start, start, same, trail_congr same]

theorem home_mem_way (tree : FileTree) (path : String) : tree.home path ∈ tree.way path := by
  cases named : Path.names path with
  | nil => simp [home, way, named, Path.home]
  | cons name rest =>
    have inside := @Path.home_mem_trail (tree.start path) _ _ (List.prefix_refl (name :: rest))
      (by simp)
    rw [← named] at inside
    exact List.mem_cons_of_mem _ inside

theorem step_kept {location next : Location} {name : String}
    (stepped : tree.step location name = .ok next) (stands : Stands tree later location) :
    later.step location name = .ok next := by
  obtain ⟨-, bits, here⟩ := step_eq stepped
  obtain ⟨bits', there⟩ := stands bits here
  simp only [step, here, there] at stepped ⊢
  exact stepped

/-- While the directories stay, names lead where they led. -/
theorem walk_kept {names : List String} {location last : Location}
    (walked : tree.walk location names = .ok last)
    (stands : ∀ place ∈ location :: Path.trail location names, Stands tree later place) :
    later.walk location names = .ok last := by
  induction names generalizing location with
  | nil => exact walked
  | cons name rest ih =>
    unfold walk at walked ⊢
    cases stepped : tree.step location name with
    | error cause => simp [stepped] at walked
    | ok next =>
      obtain ⟨rfl, -⟩ := step_eq stepped
      rw [step_kept stepped (stands location List.mem_cons_self)]
      simp only [stepped] at walked ⊢
      exact ih walked fun place inside => stands place (List.mem_cons_of_mem _ inside)

theorem locate_kept {location : Location} (located : tree.locate path = .ok location)
    (home : later.workingDirectory = tree.workingDirectory)
    (stands : ∀ place ∈ tree.way path, Stands tree later place) :
    later.locate path = .ok location := by
  unfold locate at located ⊢
  rw [home]
  split at located
  · cases located
  · rename_i whole
    split at located
    · cases located
    · rename_i some
      split at located
      · cases located
      · rename_i short
        rw [if_neg whole, if_neg some, if_neg short]
        exact walk_kept located stands

section

variable {place : Location} (vacant : ∀ bits, tree.entryAt? place ≠ some (.directory bits))

include vacant

theorem below_of_vacant : place ≠ [] := by
  rintro rfl
  simp [entryAt?] at vacant

theorem stands_put (entry : Entry) (location : Location) :
    Stands tree (tree.put place entry) location := by
  intro bits here
  have other : location ≠ place := fun same => vacant bits (same ▸ here)
  exact ⟨bits, by rw [entryAt?_put _ _ _ _ (below_of_vacant vacant), if_neg other, here]⟩

end

structure Stored (tree : FileTree) (path content : String) : Prop where
  located : tree.locate path = .ok (tree.home path)
  plain : asksDirectory path = false
  filled : ∃ bits, tree.entryAt? (tree.home path) = some (.file content bits)

theorem Stored.read (stored : Stored tree path content) : tree.read path = .ok content := by
  obtain ⟨located, plain, bits, filled⟩ := stored
  simp [FileTree.read, lookup, located, filled, plain]

theorem stored_of_write (written : tree.write path content = .ok filled) :
    Stored filled path content := by
  obtain ⟨located, plain, bits, rfl, vacant⟩ := write_eq written
  have home : (tree.put (tree.home path) (.file content bits)).home path = tree.home path :=
    home_congr rfl path
  refine ⟨?_, plain, bits, ?_⟩
  · rw [home]
    exact locate_kept located rfl fun place _ => stands_put vacant _ place
  · rw [home, entryAt?_put _ _ _ _ (below_of_vacant vacant), if_pos rfl]

structure Keeps (places : Location → Prop) (tree later : FileTree) : Prop where
  workingDirectory : later.workingDirectory = tree.workingDirectory
  entries : ∀ location, places location → ∀ entry, tree.entryAt? location = some entry →
    ∃ bits, later.entryAt? location = some (entry.withPermissions bits)

namespace Keeps

variable {places : Location → Prop}

theorem refl (places : Location → Prop) (tree : FileTree) : Keeps places tree tree where
  workingDirectory := rfl
  entries location _ entry here := ⟨entry.permissions, by cases entry <;> exact here⟩

theorem trans {first second third : FileTree} (begun : Keeps places first second)
    (ended : Keeps places second third) : Keeps places first third where
  workingDirectory := ended.workingDirectory.trans begun.workingDirectory
  entries location inside entry here := by
    obtain ⟨bits, there⟩ := begun.entries location inside entry here
    obtain ⟨bits', last⟩ := ended.entries location inside _ there
    exact ⟨bits', by cases entry <;> exact last⟩

theorem stands {location : Location} (keeps : Keeps places tree later) (inside : places location) :
    Stands tree later location := fun _ here => keeps.entries location inside _ here

/-- A file is still stored while what is on its way is kept. -/
theorem stored (keeps : Keeps places tree later) (inside : ∀ place ∈ tree.way path, places place)
    (stored : Stored tree path content) : Stored later path content := by
  have home := home_congr keeps.workingDirectory path
  refine ⟨?_, stored.plain, ?_⟩
  · rw [home]
    exact locate_kept stored.located keeps.workingDirectory fun place on =>
      keeps.stands (inside place on)
  · obtain ⟨bits, filled⟩ := stored.filled
    rw [home]
    exact keeps.entries _ (inside _ (home_mem_way tree path)) _ filled

end Keeps

theorem Planted.keeps {places : Location → Prop} (planted : Planted places tree later) :
    Keeps (fun _ => True) tree later where
  workingDirectory := planted.workingDirectory
  entries location _ entry here :=
    ⟨entry.permissions, by rw [planted.kept here]; cases entry <;> rfl⟩

/-- A file stays stored while another one is written. -/
theorem Stored.write {path' content' : String} (stored : Stored tree path content)
    (written : tree.write path' content' = .ok filled) (other : tree.home path' ≠ tree.home path) :
    Stored filled path content := by
  obtain ⟨-, -, bits, rfl, vacant⟩ := write_eq written
  have home : (tree.put (tree.home path') (.file content' bits)).home path = tree.home path :=
    home_congr rfl path
  obtain ⟨located, plain, bits', there⟩ := stored
  refine ⟨?_, plain, bits', ?_⟩
  · rw [home]
    exact locate_kept located rfl fun place _ => stands_put vacant _ place
  · rw [home, entryAt?_put _ _ _ _ (below_of_vacant vacant), if_neg (Ne.symm other), there]

theorem isDirectory_iff : tree.isDirectory path = true ↔
    tree.locate path = .ok (tree.home path) ∧
      ∃ bits, tree.entryAt? (tree.home path) = some (.directory bits) := by
  unfold isDirectory lookup
  constructor
  · intro found
    cases located : tree.locate path with
    | error cause => simp [located] at found
    | ok location =>
      cases locate_eq located
      cases here : tree.entryAt? (tree.home path) with
      | none => simp [located, here] at found
      | some entry =>
        cases entry with
        | file content bits =>
          cases asks : asksDirectory path <;>
            simp [located, here, asks, Entry.isDirectory] at found
        | directory bits => exact ⟨rfl, bits, rfl⟩
  · rintro ⟨located, bits, here⟩
    simp [located, here, Entry.isDirectory]

theorem isDirectory_kept (here : tree.isDirectory path = true)
    (home : later.workingDirectory = tree.workingDirectory)
    (stands : ∀ place ∈ tree.way path, Stands tree later place) : later.isDirectory path = true := by
  obtain ⟨located, bits, filled⟩ := isDirectory_iff.mp here
  rw [isDirectory_iff, home_congr home]
  exact ⟨locate_kept located home stands, stands _ (home_mem_way tree path) bits filled⟩

/-- Where directories were made there is one at the end of the path. -/
theorem isDirectory_of_makeDirectory {made : FileTree}
    (run : tree.makeDirectory path = .ok made) :
    made.isDirectory path = true := by
  unfold makeDirectory at run
  split at run
  · cases run
  · rename_i location located
    split at run
    · cases run
    · rename_i bare
      obtain ⟨-, rfl⟩ := changed_eq_ok.mp run
      cases locate_eq located
      have vacant : ∀ bits, tree.entryAt? (tree.home path) ≠ some (.directory bits) := by
        simp [bare]
      have home : (tree.put (tree.home path) (.directory .newDirectory)).home path = tree.home path :=
        home_congr rfl path
      rw [isDirectory_iff, home]
      refine ⟨locate_kept located rfl fun place _ => stands_put vacant _ place, .newDirectory,
        ?_⟩
      rw [entryAt?_put _ _ _ _ (below_of_vacant vacant), if_pos rfl]

theorem isDirectory_of_makeDirectoriesWithin {ascents : Nat} {made : FileTree}
    (run : makeDirectoriesWithin ascents tree path = (.ok (), made)) :
    path = "" ∨ made.isDirectory path = true := by
  cases ascents with
  | zero => cases run
  | succ ascents =>
    unfold makeDirectoriesWithin at run
    split at run
    · rename_i none
      exact .inl (by simpa using none)
    · refine .inr ?_
      repeat' split at run
      all_goals cases run
      all_goals first | assumption | exact isDirectory_of_makeDirectory ‹_›

/-- Directories that are there need not be made. -/
theorem makeDirectories_idle (here : path = "" ∨ tree.isDirectory path = true) :
    tree.makeDirectories path = (.ok (), tree) := by
  unfold makeDirectories makeDirectoriesWithin
  rcases here with rfl | here
  · rfl
  · obtain ⟨located, bits, filled⟩ := isDirectory_iff.mp here
    have refused : tree.makeDirectory path = .error .alreadyExists := by
      simp [makeDirectory, located, filled]
    by_cases none : path.isEmpty = true
    · rw [if_pos none]
    · rw [if_neg none, refused]
      simp only
      rw [if_pos here]

structure Standing (tree : FileTree) (path : String) : Prop where
  above : Path.above path = "" ∨ tree.isDirectory (Path.above path) = true
  permitted : tree.refuses (tree.home path) = none
  stored : ∃ content, tree.Stored path content

theorem standing_of_write (made : later.makeDirectories (Path.above path) = (.ok (), tree))
    (written : tree.write path content = .ok filled) : filled.Standing path := by
  obtain ⟨-, -, permitted, whole, vacant⟩ := write_put written
  refine ⟨(isDirectory_of_makeDirectoriesWithin made).imp_right fun here => ?_, ?_, content,
    stored_of_write written⟩
  · rw [whole]
    exact isDirectory_kept here rfl fun place _ => stands_put vacant _ place
  · rw [whole]
    exact permitted

theorem Standing.write (standing : tree.Standing path) (content : String) :
    ∃ filled, tree.write path content = .ok filled := by
  obtain ⟨-, permitted, _, located, plain, bits, filled⟩ := standing
  exact ⟨tree.put (tree.home path) (.file content bits),
    by simp [FileTree.write, located, filled, plain, permitted]⟩

end Raid.FileTree
