import Raid.Files.Tree
import Raid.Proofs.Files.Path

/-!
What the operations on files do to a tree. A path leads to one location whatever stands in the tree;
making directories plants them on the way there where nothing stood, and writing a file fills the
one location at the end.
-/

namespace Raid

namespace Path

def step (location : Location) (name : String) : Location :=
  if name = "." then location
  else if name = ".." then location.dropLast
  else location ++ [name]

def home (start : Location) (names : List String) : Location := names.foldl step start

def trail : Location → List String → List Location
  | _, [] => []
  | location, name :: rest => step location name :: trail (step location name) rest

theorem mem_trail {start place : Location} {names : List String} :
    place ∈ trail start names ↔
      ∃ first, first <+: names ∧ first ≠ [] ∧ place = home start first := by
  induction names generalizing start with
  | nil =>
    simp only [trail, List.not_mem_nil, List.prefix_nil, false_iff, not_exists, not_and]
    exact fun first none some => absurd none some
  | cons name rest ih =>
    rw [trail, List.mem_cons, ih]
    constructor
    · rintro (rfl | ⟨first, front, -, rfl⟩)
      · exact ⟨[name], by simp, by simp, rfl⟩
      · exact ⟨name :: first, by simpa using front, by simp, rfl⟩
    · rintro ⟨first, front, some, rfl⟩
      cases first with
      | nil => exact absurd rfl some
      | cons other first =>
        obtain ⟨rfl, inner⟩ := List.cons_prefix_cons.mp front
        cases first with
        | nil => exact .inl rfl
        | cons next first => exact .inr ⟨_, inner, by simp, rfl⟩

theorem home_mem_trail {start : Location} {first names : List String} (front : first <+: names)
    (some : first ≠ []) : home start first ∈ trail start names :=
  mem_trail.mpr ⟨first, front, some, rfl⟩

end Path

namespace FileTree

def start (tree : FileTree) (path : String) : Location :=
  if Path.isAbsolute path then [] else tree.workingDirectory

def home (tree : FileTree) (path : String) : Location :=
  Path.home (tree.start path) (Path.names path)

def trail (tree : FileTree) (path : String) : List Location :=
  Path.trail (tree.start path) (Path.names path)

theorem trail_congr {first second : FileTree}
    (same : second.workingDirectory = first.workingDirectory) (path : String) :
    second.trail path = first.trail path := by
  rw [trail, trail, start, start, same]

theorem home_congr {first second : FileTree}
    (same : second.workingDirectory = first.workingDirectory) (path : String) :
    second.home path = first.home path := by
  rw [home, home, start, start, same]

theorem step_eq {tree : FileTree} {location next : Location} {name : String}
    (stepped : tree.step location name = .ok next) :
    next = Path.step location name ∧
      ∃ permissions, tree.entryAt? location = some (.directory permissions) := by
  unfold step at stepped
  split at stepped
  · cases stepped
  · cases stepped
  · rename_i permissions here
    refine ⟨?_, permissions, here⟩
    unfold Path.step
    split at stepped
    · rename_i same
      cases stepped
      simp [same]
    · rename_i other
      split at stepped
      · rename_i up
        cases stepped
        simp [up]
      · rename_i down
        split at stepped
        · cases stepped
        · cases stepped
          simp [other, down]

theorem walk_eq {tree : FileTree} {location last : Location} {names : List String}
    (walked : tree.walk location names = .ok last) : last = Path.home location names := by
  induction names generalizing location with
  | nil =>
    cases walked
    rfl
  | cons name rest ih =>
    unfold walk at walked
    split at walked
    · cases walked
    · rename_i next stepped
      rw [ih walked, (step_eq stepped).1]
      rfl

theorem locate_eq {tree : FileTree} {path : String} {location : Location}
    (located : tree.locate path = .ok location) : location = tree.home path := by
  unfold locate at located
  split at located
  · cases located
  · split at located
    · cases located
    · split at located
      · cases located
      · exact walk_eq located

section

variable {tree after made : FileTree} {path content : String} {permissions : Permissions}

@[simp] theorem changed_eq_ok {location : Location} :
    tree.changed location after = .ok made ↔ tree.refuses location = none ∧ made = after := by
  unfold changed
  cases tree.refuses location <;> simp [eq_comm]

@[simp] theorem refuses_put (tree : FileTree) (location : Location) (entry : Entry) :
    (tree.put location entry).refuses = tree.refuses := rfl

theorem setPermissions_eq (set : tree.setPermissions path permissions = .ok after) :
    ∃ location entry, tree.lookup path = .ok (location, entry) ∧ tree.refuses location = none ∧
      after = tree.put location (entry.withPermissions permissions) := by
  unfold setPermissions at set
  split at set
  · cases set
  · rename_i location entry found
    obtain ⟨permitted, rfl⟩ := changed_eq_ok.mp set
    exact ⟨location, entry, found, permitted, rfl⟩

def ground (tree : FileTree) : FileTree := { tree with entries := [] }

theorem workingDirectory_of_ground (same : after.ground = tree.ground) :
    after.workingDirectory = tree.workingDirectory := by
  change after.ground.workingDirectory = tree.ground.workingDirectory
  rw [same]

theorem ground_setPermissions (set : tree.setPermissions path permissions = .ok after) :
    after.ground = tree.ground := by
  obtain ⟨location, entry, -, -, rfl⟩ := setPermissions_eq set
  rfl

theorem removeFile_eq (removed : tree.removeFile path = .ok after) :
    ∃ location content bits, tree.lookup path = .ok (location, .file content bits) ∧
      tree.refuses location = none ∧ after = tree.erase location := by
  unfold removeFile at removed
  repeat' split at removed
  · cases removed
  · cases removed
  · rename_i location content bits found
    obtain ⟨permitted, rfl⟩ := changed_eq_ok.mp removed
    exact ⟨location, content, bits, found, permitted, rfl⟩

theorem ground_removeFile (removed : tree.removeFile path = .ok after) :
    after.ground = tree.ground := by
  obtain ⟨location, content, bits, -, -, rfl⟩ := removeFile_eq removed
  rfl

theorem ground_prune (tree : FileTree) (path : String) :
    (tree.prune path).2.ground = tree.ground := by
  unfold prune
  split <;> rfl

theorem ground_plantDirectories (tree : FileTree) (location : Location) (names : List String) :
    (plant.plantDirectories tree location names).ground = tree.ground := by
  induction names generalizing tree location with
  | nil => rfl
  | cons name rest ih =>
    rw [plant.plantDirectories, ih]
    split <;> rfl

theorem ground_plant (tree : FileTree) (path content : String) :
    (tree.plant path content).ground = tree.ground := by
  unfold plant
  split
  · exact ground_plantDirectories tree _ _
  · exact ground_plantDirectories tree _ _

end

/-- Directories were made in places where nothing stood. -/
inductive Planted (places : Location → Prop) : FileTree → FileTree → Prop
  | refl (tree : FileTree) : Planted places tree tree
  | plant {tree after : FileTree} {location : Location} (bare : tree.entryAt? location = none)
    (inside : places location)
    (later : Planted places (tree.put location (.directory .newDirectory)) after) :
    Planted places tree after

namespace Planted

variable {places : Location → Prop} {first second third : FileTree}

theorem trans (begun : Planted places first second) (ended : Planted places second third) :
    Planted places first third := by
  induction begun with
  | refl tree => exact ended
  | plant bare inside later ih => exact .plant bare inside (ih ended)

theorem ground (planted : Planted places first second) : second.ground = first.ground := by
  induction planted with
  | refl tree => rfl
  | plant bare inside later ih => exact ih

theorem workingDirectory (planted : Planted places first second) :
    second.workingDirectory = first.workingDirectory :=
  workingDirectory_of_ground planted.ground

theorem entry (planted : Planted places first second) (location : Location) :
    second.entryAt? location = first.entryAt? location ∨
      places location ∧ first.entryAt? location = none ∧
        second.entryAt? location = some (.directory .newDirectory) := by
  induction planted with
  | refl tree => exact .inl rfl
  | @plant tree after place bare inside later ih =>
    have below : place ≠ [] := by
      rintro rfl
      simp [entryAt?] at bare
    rw [entryAt?_put tree place location _ below] at ih
    split at ih
    · rename_i same
      subst same
      -- The directory made here is there to the end.
      rcases ih with made | ⟨-, none, -⟩
      · exact .inr ⟨inside, bare, made⟩
      · cases none
    · exact ih

theorem kept (planted : Planted places first second) {location : Location} {entry : Entry}
    (here : first.entryAt? location = some entry) : second.entryAt? location = some entry := by
  rcases planted.entry location with same | ⟨-, bare, -⟩
  · rw [same, here]
  · simp [here] at bare

end Planted

theorem makeDirectory_planted {tree made : FileTree} {path whole : String}
    (run : tree.makeDirectory path = .ok made) (some : path ≠ "")
    (front : Path.names path <+: Path.names whole) (same : tree.start path = tree.start whole) :
    Planted (· ∈ tree.trail whole) tree made := by
  unfold makeDirectory at run
  split at run
  · cases run
  · rename_i location located
    split at run
    · cases run
    · rename_i bare
      obtain ⟨-, rfl⟩ := changed_eq_ok.mp run
      have home := locate_eq located
      subst home
      refine .plant bare ?_ (.refl _)
      rw [home, trail, ← same]
      refine Path.home_mem_trail front fun none => ?_
      -- A path without names is the root, where a directory stands.
      have absolute := Path.isAbsolute_of_names none some
      simp [home, start, none, absolute, Path.home, entryAt?] at bare

theorem makeDirectoriesWithin_planted {ascents : Nat} {tree : FileTree} {path whole : String}
    (front : Path.names path <+: Path.names whole)
    (same : path ≠ "" → tree.start path = tree.start whole) :
    Planted (· ∈ tree.trail whole) tree (makeDirectoriesWithin ascents tree path).2 := by
  induction ascents generalizing path with
  | zero => exact .refl tree
  | succ ascents ih =>
    unfold makeDirectoriesWithin
    split
    · exact .refl tree
    · rename_i some
      have some : path ≠ "" := by simpa using some
      split
      · rename_i made run
        exact makeDirectory_planted run some front (same some)
      · split
        · exact .refl tree
        · rename_i above parent
          have begun : Planted (· ∈ tree.trail whole) tree
              (makeDirectoriesWithin ascents tree above).2 := by
            refine ih ((Path.names_parent? parent).trans front) fun some' => ?_
            rw [← same some, start, start, Path.isAbsolute_parent? parent (by simpa using some')]
          split
          · rename_i made
            rw [made] at begun
            exact begun
          · rename_i middle made
            rw [made] at begun
            split
            · rename_i last run
              have start (path : String) : FileTree.start middle path = tree.start path := by
                rw [FileTree.start, FileTree.start, begun.workingDirectory]
              have way : middle.trail whole = tree.trail whole := by rw [trail, start, trail]
              have ended := makeDirectory_planted run some front
                (by rw [start, start, same some])
              exact begun.trans (way ▸ ended)
            · split <;> exact begun
      · split <;> exact .refl tree

theorem makeDirectories_trail (tree : FileTree) (path : String) :
    Planted (· ∈ tree.trail path) tree (tree.makeDirectories path).2 :=
  makeDirectoriesWithin_planted (List.prefix_refl _) fun _ => rfl

/-- Making the directory of a file plants nothing but directories on the way to the file. -/
theorem makeDirectories_planted (tree : FileTree) (path : String) :
    Planted (· ∈ tree.trail path) tree (tree.makeDirectories (Path.above path)).2 :=
  makeDirectoriesWithin_planted (Path.names_above path) fun some => by
    rw [start, Path.isAbsolute_above some, start]

/-- How a file is written: at the end of its path, where no directory stood and nothing is refused, with
the permissions of the file that it replaces. -/
theorem write_put {tree filled : FileTree} {path content : String}
    (written : tree.write path content = .ok filled) :
    tree.locate path = .ok (tree.home path) ∧ asksDirectory path = false ∧
      tree.refuses (tree.home path) = none ∧
      filled = tree.put (tree.home path) (.file content
        (((tree.entryAt? (tree.home path)).map Entry.permissions).getD .newFile)) ∧
      ∀ bits, tree.entryAt? (tree.home path) ≠ some (.directory bits) := by
  unfold write at written
  split at written
  · cases written
  · rename_i location located
    have home := locate_eq located
    subst home
    refine ⟨located, ?_⟩
    split at written
    · cases written
    · rename_i old permissions here
      split at written
      · cases written
      · rename_i plain
        obtain ⟨permitted, rfl⟩ := changed_eq_ok.mp written
        exact ⟨by simpa using plain, permitted, by simp [here, Entry.permissions], by simp [here]⟩
    · rename_i bare
      split at written
      · cases written
      · rename_i plain
        obtain ⟨permitted, rfl⟩ := changed_eq_ok.mp written
        exact ⟨by simpa using plain, permitted, by simp [bare], by simp [bare]⟩

theorem write_eq {tree filled : FileTree} {path content : String}
    (written : tree.write path content = .ok filled) :
    tree.locate path = .ok (tree.home path) ∧ asksDirectory path = false ∧
      ∃ bits, filled = tree.put (tree.home path) (.file content bits) ∧
        ∀ bits, tree.entryAt? (tree.home path) ≠ some (.directory bits) := by
  obtain ⟨located, plain, -, whole, vacant⟩ := write_put written
  exact ⟨located, plain, _, whole, vacant⟩

theorem ground_write {tree filled : FileTree} {path content : String}
    (written : tree.write path content = .ok filled) : filled.ground = tree.ground := by
  obtain ⟨-, -, permissions, rfl, -⟩ := write_eq written
  rfl

theorem home_mem_trail {tree filled : FileTree} {path content : String}
    (written : tree.write path content = .ok filled) : tree.home path ∈ tree.trail path := by
  obtain ⟨located, -, -, -, vacant⟩ := write_eq written
  refine Path.home_mem_trail (List.prefix_refl _) fun none => ?_
  by_cases some : path = ""
  · simp [locate, some] at located
  · have absolute := Path.isAbsolute_of_names none some
    simp [home, start, none, absolute, Path.home, entryAt?] at vacant

end FileTree

end Raid
