import Raid.Proofs.Results.Placing
import Raid.Proofs.Results.Writing

/-!
What writing results leaves behind in the tree of files. Directories are made on the way to the file
and nowhere else; the file itself is written whole or not at all; and where a name is refused,
nothing happens.
-/

namespace Raid

namespace FileTree

variable {tree after files filled : FileTree} {path text : String}

/-- The locations that a path passes on its way to its last name: those that its proper beginnings
lead to. -/
def passed (tree : FileTree) (path : String) : List Location :=
  Path.trail (tree.start path) (Path.names path).dropLast

theorem walk_directories {location last : Location} {names : List String}
    (walked : tree.walk location names = .ok last) :
    ∀ place ∈ Path.trail location names.dropLast,
      ∃ bits, tree.entryAt? place = some (.directory bits) := by
  induction names generalizing location with
  | nil => nofun
  | cons name rest ih =>
    unfold walk at walked
    split at walked
    · cases walked
    · rename_i next stepped
      obtain ⟨rfl, -⟩ := step_eq stepped
      cases rest with
      | nil => nofun
      | cons other rest =>
        rw [List.dropLast_cons_cons, Path.trail]
        refine List.forall_mem_cons.mpr ⟨?_, ih walked⟩
        unfold walk at walked
        split at walked
        · cases walked
        · rename_i second stepped'
          exact (step_eq stepped').2

theorem passed_directories {location : Location} (located : tree.locate path = .ok location) :
    ∀ place ∈ tree.passed path, ∃ bits, tree.entryAt? place = some (.directory bits) := by
  unfold locate at located
  split at located
  · cases located
  · split at located
    · cases located
    · split at located
      · cases located
      · exact walk_directories located

structure Prepared (tree after : FileTree) (path : String) : Prop where
  ground : after.ground = tree.ground
  entries : ∀ location, after.entryAt? location = tree.entryAt? location ∨
    location ∈ tree.passed path ∧ tree.entryAt? location = none ∧
      after.entryAt? location = some (.directory .newDirectory)

structure Filed (tree after : FileTree) (path text : String) : Prop where
  ground : after.ground = tree.ground
  reads : after.read path = .ok text
  directories : ∀ location ∈ tree.passed path,
    ∃ bits, after.entryAt? location = some (.directory bits)
  entries : ∀ location, after.entryAt? location =
    if location = tree.home path then
      some (.file text (((tree.entryAt? location).map Entry.permissions).getD .newFile))
    else if location ∈ tree.passed path then
      some ((tree.entryAt? location).getD (.directory .newDirectory))
    else tree.entryAt? location

theorem Planted.prepared (planted : Planted (· ∈ tree.passed path) tree after) :
    Prepared tree after path :=
  ⟨planted.ground, planted.entry⟩

theorem Prepared.filed (prepared : Prepared tree files path)
    (written : files.write path text = .ok filled) : Filed tree filled path text := by
  obtain ⟨located, -, -, whole, vacant⟩ := write_put written
  have start := workingDirectory_of_ground prepared.ground
  have home : files.home path = tree.home path := home_congr start path
  have way : files.passed path = tree.passed path := by
    rw [passed, passed, FileTree.start, FileTree.start, start]
  have passed := passed_directories located
  rw [way] at passed
  rw [home] at whole vacant
  -- A directory that is passed is not where the file goes.
  have apart : tree.home path ∉ tree.passed path := fun inside => by
    obtain ⟨bits, here⟩ := passed _ inside
    exact vacant bits here
  have before : files.entryAt? (tree.home path) = tree.entryAt? (tree.home path) :=
    (prepared.entries _).resolve_right fun made => apart made.1
  rw [before] at whole
  have reads := (stored_of_write written).read
  subst whole
  refine ⟨prepared.ground, reads, fun location inside => ?_, fun location => ?_⟩
  · obtain ⟨bits, here⟩ := passed location inside
    exact stands_put vacant _ location bits here
  · rw [entryAt?_put _ _ _ _ (below_of_vacant vacant)]
    split
    · rename_i same
      rw [same]
    · rcases prepared.entries location with same | ⟨inside, bare, made⟩
      · rw [same]
        split
        · rename_i inside
          obtain ⟨bits, here⟩ := passed location inside
          rw [← same, here]
          rfl
        · rfl
      · rw [made, if_pos inside, bare]
        rfl

end FileTree

variable {directory service path : String} {tactic : Tactic} {format : OutputFormat}
  {world after : World} {answer : Except ResultsError String}

/-- What the path for results passes are the places on the way to the directory above it. -/
theorem passed_resultsPath (named : resultsPath directory service tactic.name format = .ok path)
    (tree : FileTree) : tree.passed path = tree.trail (Path.above path) := by
  obtain ⟨-, -, names, absolute, -⟩ := resultsPath_named named
  have above : Path.above path = Path.join directory service := by
    rw [Path.above, (placed_of_resultsPath named).parent]
    rfl
  rw [FileTree.passed, FileTree.trail, FileTree.start, FileTree.start, above, names, absolute,
    List.dropLast_concat]

theorem prepared_of_makeDirectories {tree files : FileTree} {made : Except Cause Unit}
    (named : resultsPath directory service tactic.name format = .ok path)
    (run : tree.makeDirectories (Path.above path) = (made, files)) : tree.Prepared files path := by
  have planted := tree.makeDirectories_trail (Path.above path)
  rw [run, ← passed_resultsPath named] at planted
  exact planted.prepared

/-- What becomes of the tree of files, by the answer to writing the results of a tactic. -/
def Framed (directory service : String) (tactic : Tactic) (format : OutputFormat)
    (world after : World) : Except ResultsError String → Prop
  | .ok path =>
    resultsPath directory service tactic.name format = .ok path ∧
      world.files.Filed after.files path (tactic.text format world)
  | .error (.invalidName name) =>
    (name = service ∨ name = tactic.name) ∧ ¬Path.Plain name ∧ after = world
  | .error error =>
    ∃ path cause, resultsPath directory service tactic.name format = .ok path ∧
      (error = .createDirectory (Path.above path) cause ∨ error = .write path cause) ∧
      world.files.Prepared after.files path

theorem Wrote.framed (wrote : Wrote directory service tactic format world answer after) :
    Framed directory service tactic format world after answer := by
  cases wrote with
  | unnamed refused =>
    obtain ⟨name, rfl, whose, bad⟩ := resultsPath_error refused
    exact ⟨whose, bad, rfl⟩
  | @uncreated path cause files named made =>
    exact ⟨path, cause, named, .inl rfl, prepared_of_makeDirectories named made⟩
  | @unwritten path cause files named made refused =>
    exact ⟨path, cause, named, .inr rfl, prepared_of_makeDirectories named made⟩
  | written event named made written =>
    exact ⟨named, (prepared_of_makeDirectories named made).filed written⟩

/-- Writing the results of a tactic always comes to an answer, and touches nothing but files and the
journal. Of the files it touches the one at the path for the results, which is written whole or not
at all, and the directories that are missing on the way there; a name that cannot be used is refused
before anything happens. -/
theorem writeTactic_framed (directory service : String) (tactic : Tactic) (format : OutputFormat)
    (world : World) : ∃ answer after,
      writeTactic directory service tactic format world = (.done answer, after) ∧
        after = { world with files := after.files, journal := after.journal } ∧
        Framed directory service tactic format world after answer := by
  obtain ⟨answer, after, run, wrote⟩ :=
    writeTactic_cases directory service tactic format world
  exact ⟨answer, after, run, wrote.eq_files, wrote.framed⟩

end Raid
