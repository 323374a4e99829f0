import Raid.Armory.Directory
import Raid.Proofs.Change.Pass
import Raid.Proofs.Files.Undoing

/-!
Changes that can be reverted. Where the files are as a change left them, reverting it brings back the
files that it found; and whatever comes of applying a change of the built-in kinds, it can be reverted.
-/

namespace Raid

open Act

@[simp] theorem Json.member?_single (key : String) (value : Json) :
    (Json.object [(key, value)]).member? key = some value := by
  simp [Json.member?, valueAt?]

namespace Change

/-- The change can be reverted from these files to the old ones: it is settled and they are the old
ones, or it made a file where nothing stood, or it cleared write bits and noted the permissions. -/
inductive Reversible (old : FileTree) : FileTree → Change → Prop
  | settled {change : Change} (settled : change.Settled) : Reversible old old change
  | written {files : FileTree} {change : Change} {path content : String}
    (pending : ¬change.Settled) (function : change.reverter = some .removeFile)
    (target : change.targetOrNull = .object [("path", .text path)])
    (bare : old.entryAt? (old.home path) = none) (written : old.write path content = .ok files) :
    Reversible old files change
  | marked {files : FileTree} {change : Change} {path : String} {before : Permissions}
    (pending : ¬change.Settled) (function : change.reverter = some (.restorePermissions (some before)))
    (target : change.targetOrNull = .object [("path", .text path)])
    (noted : old.permissions path = .ok before)
    (set : old.setPermissions path before.withoutWrite = .ok files) :
    Reversible old files change

theorem callRevert_removeFile {path : String} {world : World} {files : FileTree}
    (removed : world.files.removeFile path = .ok files) (ref : Ref Change) :
    callRevert ref (.object [("path", .text path)]) .removeFile world =
      (.done (.ok ()), { world with files := files }) := by
  simp [callRevert, removeFileOf, Json.text?, removed]

theorem callRevert_noted {path : String} {before : Permissions} {world : World} {files : FileTree}
    (set : world.files.setPermissions path before = .ok files) (ref : Ref Change) :
    callRevert ref (.object [("path", .text path)]) (.restorePermissions (some before)) world =
      (.done (.ok ()), { world.withChange ref
        { world.change ref with reverter := some (.restorePermissions none) } with files := files }) := by
  simp only [callRevert, bind_apply, read_apply, Task.setChange, change_apply, restorePermissionsOf]
  simp [Json.text?, set, World.withChange]

theorem revert_of_call {ref : Ref Change} {function : RevertFunction} {world middle : World}
    (pending : ¬(world.change ref).Settled) (own : (world.change ref).reverter = some function)
    (call : callRevert ref (world.change ref).targetOrNull function world =
      (.done (.ok ()), middle)) :
    revert ref world = (.done (.ok ()), middle.withChange ref (middle.change ref).afterRevert) := by
  obtain ⟨fine, live⟩ := not_settled_iff.mp pending
  simp only [revert, bind_apply, read_apply, fine, live, own, call, Bool.false_eq_true, ↓reduceIte,
    Bool.not_true]
  rfl

/-- A reversible change can be reverted, and the files are as they were. -/
theorem Reversible.revert {old : FileTree} {ref : Ref Change} {world : World}
    (reversible : Reversible old world.files (world.change ref)) :
    ∃ answer after, Change.revert ref world = (.done answer, after) ∧ old.Same after.files := by
  generalize here : world.files = files at reversible
  generalize own : world.change ref = change at reversible
  cases reversible with
  | settled settled =>
    subst here own
    obtain ⟨answer, run⟩ := revert_settled settled
    exact ⟨answer, world, run, .refl _⟩
  | written pending function target bare written =>
    subst here own
    obtain ⟨after, removed, same⟩ := FileTree.removeFile_of_write written bare
    have call := callRevert_removeFile removed ref
    rw [← target] at call
    exact ⟨.ok (), _, revert_of_call pending function call, same⟩
  | marked pending function target noted set =>
    subst here own
    obtain ⟨after, restored, same⟩ := FileTree.setPermissions_of_setPermissions noted set
    have call := callRevert_noted restored ref
    rw [← target] at call
    exact ⟨.ok (), _, revert_of_call pending function call, same⟩

/-- A pass over a single reversible change, however often it comes, brings the files back. -/
theorem Reversible.revertEach {old : FileTree} {ref : Ref Change} {world : World}
    (reversible : Reversible old world.files (world.change ref)) (area : LogArea) (heading : String)
    {refs : List (Ref Change)} (own : ref ∈ refs) (single : ∀ other ∈ refs, other = ref) :
    ∃ failures after, Change.revertEach area heading refs world = (.done failures, after) ∧
      old.Same after.files := by
  obtain ⟨head, rest, rfl⟩ := List.exists_cons_of_ne_nil (List.ne_nil_of_mem own)
  obtain ⟨rfl, single⟩ := List.forall_mem_cons.mp single
  obtain ⟨answer, middle, run, same⟩ := reversible.revert
  have settled : ∀ other ∈ rest, (middle.change other).Settled := fun other member =>
    single other member ▸ (revert_done run).1
  obtain ⟨failures, journal, swept⟩ := revertEach_cons run fun journal =>
    @revertEach_settled area heading rest { middle with journal := journal } settled
  exact ⟨failures, { middle with journal := journal }, swept, same⟩

inductive Tried (ref : Ref Change) (world : World) : Outcome (Except String Json) → World → Prop
  | made {target : Json} {middle : World}
    (reversible : Reversible world.files middle.files ((middle.change ref).afterApply target)) :
    Tried ref world (.done (.ok target)) middle
  | failed {reason : String} {middle : World} (same : middle.files = world.files) :
    Tried ref world (.done (.error reason)) middle

theorem apply_of_tried {ref : Ref Change} {service : String} {input : Json}
    {function : ApplyFunction} {world : World} (fine : (world.change ref).badState = false)
    (whole : (world.change ref).lacks? = none) (idle : (world.change ref).live = false)
    (own : (world.change ref).applier = some function)
    (tried : Tried ref world (callApply ref service input function world).1
      (callApply ref service input function world).2) :
    ∃ answer after, apply ref service input world = (.done answer, after) ∧
      Reversible world.files after.files (after.change ref) := by
  simp only [apply, bind_apply, read_apply, fine, whole, own, idle, Bool.false_eq_true, ↓reduceIte]
  generalize callApply ref service input function world = call at tried
  obtain ⟨outcome, middle⟩ := call
  cases tried with
  | @made target _ reversible =>
    refine ⟨.ok target, middle.withChange ref ((middle.change ref).afterApply target), rfl, ?_⟩
    rw [World.change_withChange_self]
    exact reversible
  | @failed reason _ same =>
    let error := ChangeError.applyFailed (middle.change ref).name reason
    refine ⟨.error error, middle.withChange ref ((middle.change ref).spoiled error), rfl, ?_⟩
    rw [World.change_withChange_self]
    change Reversible world.files middle.files _
    rw [same]
    exact .settled (.inl rfl)

/-- Writing a canary file can be reverted, if no file stands in its place. -/
theorem tried_writeFile {ref : Ref Change} {name content directory : String} {world : World}
    (fresh : world.change ref = DirectoryCheck.canaryFile name content)
    (unfiled : ∀ old bits, world.files.entryAt? (world.files.home (Path.join directory name)) ≠
      some (.file old bits)) (service : String) :
    let call := callApply ref service (.object [("dir", .text directory)])
      (.writeFile name content) world
    Tried ref world call.1 call.2 := by
  simp only [callApply, writeFileIn, Json.member?_single, Option.bind_some, Json.text?]
  cases written : world.files.write (Path.join directory name) content with
  | error cause => exact .failed rfl
  | ok files =>
    have same : ({ world with files := files } : World).change ref =
        DirectoryCheck.canaryFile name content := fresh
    refine .made ?_
    rw [same]
    refine .written (by simp [not_settled_iff, afterApply, Change.live, DirectoryCheck.canaryFile])
      rfl rfl ?_ written
    obtain ⟨-, -, -, -, vacant⟩ := FileTree.write_eq written
    cases here : world.files.entryAt? (world.files.home (Path.join directory name)) with
    | none => rfl
    | some entry =>
      cases entry with
      | file old bits => exact absurd here (unfiled old bits)
      | directory bits => exact absurd here (vacant bits)

theorem callApply_markReadonly {ref : Ref Change} {directory : String} {before : Permissions}
    {world : World} {files : FileTree} (noted : world.files.permissions directory = .ok before)
    (set : world.files.setPermissions directory before.withoutWrite = .ok files) (service : String) :
    callApply ref service (.object [("dir", .text directory)]) .markReadonly world =
      (.done (.ok (.object [("path", .text directory)])),
        { world with files := files }.withChange ref
          { world.change ref with reverter := some (.restorePermissions (some before)) }) := by
  simp only [callApply, bind_apply, markReadonlyIn, Json.member?_single, Option.bind_some,
    Json.text?, noted, set]
  rfl

theorem tried_markReadonly {ref : Ref Change} {directory : String} {world : World}
    (fresh : world.change ref = DirectoryCheck.readonlyFlag) (service : String) :
    let call := callApply ref service (.object [("dir", .text directory)]) .markReadonly world
    Tried ref world call.1 call.2 := by
  cases noted : world.files.permissions directory with
  | error cause =>
    simp only [callApply, bind_apply, markReadonlyIn, Json.member?_single, Option.bind_some,
      Json.text?, noted]
    exact .failed rfl
  | ok before =>
    cases set : world.files.setPermissions directory before.withoutWrite with
    | error cause =>
      simp only [callApply, bind_apply, markReadonlyIn, Json.member?_single, Option.bind_some,
        Json.text?, noted, set]
      exact .failed rfl
    | ok files =>
      rw [callApply_markReadonly noted set service]
      refine .made ?_
      rw [World.change_withChange_self, fresh]
      exact .marked (by simp [not_settled_iff, afterApply, Change.live, DirectoryCheck.readonlyFlag])
        rfl rfl noted set

end Change

end Raid
