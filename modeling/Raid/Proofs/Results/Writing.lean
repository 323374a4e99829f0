import Raid.Proofs.Files.Storing
import Raid.Proofs.Footprint
import Raid.Results.File

/-!
Writing the results of a tactic, taken apart once into the four ways in which it comes out. It always
comes to an answer, and touches nothing but files and the journal.
-/

namespace Raid

open Act

def Tactic.text (tactic : Tactic) (format : OutputFormat) (world : World) : String :=
  (tactic.record world).fileText format

inductive Wrote (directory service : String) (tactic : Tactic) (format : OutputFormat)
    (world : World) : Except ResultsError String → World → Prop
  | unnamed {error : ResultsError}
    (named : resultsPath directory service tactic.name format = .error error) :
    Wrote directory service tactic format world (.error error) world
  | uncreated {path : String} {cause : Cause} {files : FileTree}
    (named : resultsPath directory service tactic.name format = .ok path)
    (made : world.files.makeDirectories (Path.above path) = (.error cause, files)) :
    Wrote directory service tactic format world
      (.error (.createDirectory (Path.above path) cause)) { world with files := files }
  | unwritten {path : String} {cause : Cause} {files : FileTree}
    (named : resultsPath directory service tactic.name format = .ok path)
    (made : world.files.makeDirectories (Path.above path) = (.ok (), files))
    (refused : files.write path (tactic.text format world) = .error cause) :
    Wrote directory service tactic format world (.error (.write path cause))
      { world with files := files }
  | written {path : String} {files filled : FileTree} (event : Event)
    (named : resultsPath directory service tactic.name format = .ok path)
    (made : world.files.makeDirectories (Path.above path) = (.ok (), files))
    (written : files.write path (tactic.text format world) = .ok filled) :
    Wrote directory service tactic format world (.ok path)
      { world with files := filled, journal := world.journal ++ [event] }

theorem Wrote.eq_files {directory service : String} {tactic : Tactic} {format : OutputFormat}
    {world after : World} {written : Except ResultsError String}
    (wrote : Wrote directory service tactic format world written after) :
    after = { world with files := after.files, journal := after.journal } := by
  cases wrote <;> rfl

theorem Wrote.ground {directory service : String} {tactic : Tactic}
    {format : OutputFormat} {world after : World} {written : Except ResultsError String}
    (wrote : Wrote directory service tactic format world written after) :
    after.files.ground = world.files.ground := by
  have made {path : String} {answer : Except Cause Unit} {files : FileTree}
      (made : world.files.makeDirectories (Path.above path) = (answer, files)) :
      files.ground = world.files.ground := by
    have planted := FileTree.makeDirectories_planted world.files path
    rw [made] at planted
    exact planted.ground
  cases wrote with
  | unnamed named => rfl
  | uncreated named created => exact made created
  | unwritten named created refused => exact made created
  | written event named created written =>
    exact (FileTree.ground_write written).trans (made created)

theorem writeTactic_cases (directory service : String) (tactic : Tactic) (format : OutputFormat)
    (world : World) : ∃ written after,
      writeTactic directory service tactic format world = (.done written, after) ∧
        Wrote directory service tactic format world written after := by
  unfold writeTactic
  cases named : resultsPath directory service tactic.name format with
  | error error => exact ⟨_, _, rfl, .unnamed named⟩
  | ok path =>
    simp only [bind_apply, read_apply, Task.setFiles, change_apply]
    cases made : world.files.makeDirectories ((Path.parent? path).getD "") with
    | mk answer files =>
      cases answer with
      | error cause => exact ⟨_, _, rfl, .uncreated named made⟩
      | ok value =>
        have text : (tactic.record { world with files := files }).fileText format =
            tactic.text format world := rfl
        simp only [bind_apply, read_apply, text]
        cases wrote : files.write path (tactic.text format world) with
        | error cause => exact ⟨_, _, rfl, .unwritten named made wrote⟩
        | ok filled =>
          let event : Event := .logged ⟨.debug, .results,
            [("message", .text "wrote tactic results"), ("path", .text path)]⟩
          exact ⟨_, _, rfl, .written event named made wrote⟩

section

variable {directory service path : String} {tactic : Tactic} {format : OutputFormat}
  {world after : World} {written : Except ResultsError String}

theorem Wrote.of_writeTactic
    (run : writeTactic directory service tactic format world = (.done (.ok path), after)) :
    Wrote directory service tactic format world (.ok path) after := by
  obtain ⟨written, after', run', wrote⟩ :=
    writeTactic_cases directory service tactic format world
  rw [run'] at run
  cases run
  exact wrote

theorem Wrote.stored_own
    (wrote : Wrote directory service tactic format world (.ok path) after) :
    resultsPath directory service tactic.name format = .ok path ∧
      after.files.Stored path (tactic.text format world) := by
  cases wrote with
  | written event named made written => exact ⟨named, FileTree.stored_of_write written⟩

/-- A file stays stored while the results of another tactic are written. -/
theorem Wrote.stored {content : String}
    (wrote : Wrote directory service tactic format world written after)
    (stored : world.files.Stored path content)
    (other : ∀ path', written = .ok path' → world.files.home path' ≠ world.files.home path) :
    after.files.Stored path content := by
  have planted {path' : String} {answer : Except Cause Unit} {files : FileTree}
      (made : world.files.makeDirectories (Path.above path') = (answer, files)) :
      files.Stored path content ∧ files.workingDirectory = world.files.workingDirectory := by
    have planted := FileTree.makeDirectories_planted world.files path'
    rw [made] at planted
    exact ⟨planted.keeps.stored (fun _ _ => trivial) stored, planted.workingDirectory⟩
  cases wrote with
  | unnamed named => exact stored
  | uncreated named made => exact (planted made).1
  | unwritten named made refused => exact (planted made).1
  | @written path' _ _ _ named made written =>
    obtain ⟨begun, home⟩ := planted made
    refine begun.write written ?_
    rw [FileTree.home_congr home, FileTree.home_congr home]
    exact other path' rfl

end

end Raid
