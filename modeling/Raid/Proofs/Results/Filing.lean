import Raid.Proofs.Files.Undoing
import Raid.Proofs.Results.Writing

/-!
What writing results does to the whole tree. Files of results appear or are written over, directories
appear on the way to them, and every other entry is as it was.
-/

namespace Raid

namespace FileTree

variable {results : String → Prop} {first second third : FileTree}

inductive Left (results : String → Prop) (before after : FileTree) (location : Location) : Prop
  | same (same : after.entryAt? location = before.entryAt? location)
  | written {path content : String} {bits : Permissions} (result : results path)
    (place : location = before.home path)
    (vacant : ∀ bits, before.entryAt? location ≠ some (.directory bits))
    (file : after.entryAt? location = some (.file content bits))
  | made {path : String} (result : results path) (place : location ∈ before.trail (Path.above path))
    (bare : before.entryAt? location = none)
    (directory : after.entryAt? location = some (.directory .newDirectory))

/-- The trees are the same but for files of results and directories that were made on the way to
them. -/
structure SameBut (results : String → Prop) (before after : FileTree) : Prop where
  ground : after.ground = before.ground
  left : ∀ location, Left results before after location

namespace SameBut

theorem workingDirectory (left : SameBut results first second) :
    second.workingDirectory = first.workingDirectory :=
  workingDirectory_of_ground left.ground

theorem of_same (same : first.Same second) : SameBut results first second :=
  ⟨same.ground, fun location => .same (same.entries location)⟩

theorem trans (begun : SameBut results first second) (ended : SameBut results second third) :
    SameBut results first third := by
  refine ⟨ended.ground.trans begun.ground, fun location => ?_⟩
  cases ended.left location with
  | same same =>
    cases begun.left location with
    | same same' => exact .same (same.trans same')
    | written result place vacant file => exact .written result place vacant (same.trans file)
    | made result place bare directory => exact .made result place bare (same.trans directory)
  | written result place vacant file =>
    rw [home_congr begun.workingDirectory] at place
    cases begun.left location with
    | same same' => exact .written result place (by simpa [same'] using vacant) file
    | written result' place' vacant' file' => exact .written result place vacant' file
    | made result' place' bare directory => exact absurd directory (vacant _)
  | made result place bare directory =>
    rw [trail_congr begun.workingDirectory] at place
    cases begun.left location with
    | same same' => exact .made result place (same'.symm.trans bare) directory
    | written result' place' vacant' file' => simp [bare] at file'
    | made result' place' bare' directory' => simp [bare] at directory'

end SameBut

theorem sameBut_of_makeDirectories {path : String} (result : results path) (tree : FileTree) :
    SameBut results tree (tree.makeDirectories (Path.above path)).2 := by
  have planted := makeDirectories_trail tree (Path.above path)
  refine ⟨planted.ground, fun location => ?_⟩
  rcases planted.entry location with same | ⟨place, bare, directory⟩
  · exact .same same
  · exact .made result place bare directory

theorem sameBut_of_write {path content : String} (result : results path)
    (written : first.write path content = .ok second) : SameBut results first second := by
  obtain ⟨-, -, bits, rfl, vacant⟩ := write_eq written
  refine ⟨rfl, fun location => ?_⟩
  have entry := entryAt?_put first (first.home path) location (.file content bits)
    (below_of_vacant vacant)
  by_cases here : location = first.home path
  · subst here
    rw [if_pos rfl] at entry
    exact .written result rfl vacant entry
  · rw [if_neg here] at entry
    exact .same entry

end FileTree

/-- Writing results leaves the tree as it was, but for their file and its directories. -/
theorem Wrote.sameBut {directory service : String} {tactic : Tactic} {format : OutputFormat}
    {world after : World} {written : Except ResultsError String} {results : String → Prop}
    (wrote : Wrote directory service tactic format world written after)
    (result : ∀ path, resultsPath directory service tactic.name format = .ok path → results path) :
    FileTree.SameBut results world.files after.files := by
  have making {path : String} {answer : Except Cause Unit} {files : FileTree}
      (named : resultsPath directory service tactic.name format = .ok path)
      (made : world.files.makeDirectories (Path.above path) = (answer, files)) :
      FileTree.SameBut results world.files files := by
    have same := FileTree.sameBut_of_makeDirectories (result path named) world.files
    rwa [made] at same
  cases wrote with
  | unnamed named => exact .of_same (.refl _)
  | uncreated named made => exact making named made
  | unwritten named made refused => exact making named made
  | written event named made written =>
    exact (making named made).trans (FileTree.sameBut_of_write (result _ named) written)

end Raid
