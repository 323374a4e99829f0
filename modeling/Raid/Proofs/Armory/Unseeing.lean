import Raid.Proofs.Armory.Probing
import Raid.Proofs.Indifference

/-!
What the built-in checks of a directory see. They look at the target and at what lies in it, and
write nothing but canary files in it and its permissions. Where a region of the tree has nothing of
that, the checks come out the same whatever stands in the region.
-/

namespace Raid

open Act

def Region.SparesTarget (region : Region) (home : Location) (target : Json) : Prop :=
  ∀ path, (target.member? "path").bind Json.text? = some path → region.Spares home path

structure Region.SparesWithin (region : Region) (home : Location) (directory : String) : Prop where
  way : region.Spares home directory
  inside : ∀ child, child ≠ [] →
    child.dropLast = ({ workingDirectory := home } : FileTree).home directory → region child = false

structure Change.Sparing (region : Region) (home : Location) (change : Change) : Prop where
  unscripted : ∀ replies, change.applier ≠ some (.scripted replies)
  canary : ∀ name content, change.applier = some (.writeFile name content) →
    ∃ number, name = DirectoryCheck.canaryName number
  target : region.SparesTarget home change.targetOrNull

/-- What is to hold of worlds in which checks of directories run: directories stand where some are
asked for, and there are changes of checks alone. -/
structure DirectoryCheck.Sound (region : Region) (home : Location) (standing : Location → Prop)
    (files : FileTree) (changes : Table Change) (bench : Bench) : Prop where
  workingDirectory : files.workingDirectory = home
  stands : ∀ place, standing place → ∃ bits, files.entryAt? place = some (.directory bits)
  changes : ∀ ref, (changes.get ref).Sparing region home

variable {region : Region} {home : Location} {standing : Location → Prop}

theorem Region.sparesTarget_path {path : String} (spares : region.Spares home path) :
    region.SparesTarget home (.object [("path", .text path)]) := by
  intro other same
  cases same
  exact spares

theorem Region.SparesWithin.canary {directory : String}
    (spares : region.SparesWithin home directory) (filled : directory ≠ "") (number : Nat) :
    region.Spares home (Path.join directory (DirectoryCheck.canaryName number)) := by
  intro _ location way
  have plain := DirectoryCheck.canaryName_plain number
  have named : DirectoryCheck.canaryName number ≠ "" := fun none => by
    have head := DirectoryCheck.canaryName_head number
    simp [none] at head
  have start : ({ workingDirectory := home } : FileTree).start
      (Path.join directory (DirectoryCheck.canaryName number)) =
      ({ workingDirectory := home } : FileTree).start directory := by
    rw [FileTree.start, FileTree.start, Path.isAbsolute_join filled plain]
  rw [FileTree.way, FileTree.trail, start, Path.names_join filled plain named,
    List.mem_cons, Path.mem_trail] at way
  -- The way of a canary file is that of its directory, and then the file itself.
  rcases way with rfl | ⟨first, front, some, rfl⟩
  · exact spares.way filled _ List.mem_cons_self
  · rcases List.prefix_concat_iff.mp front with rfl | front
    · rw [Path.home, List.foldl_append, List.foldl_cons, List.foldl_nil,
        DirectoryCheck.step_canaryName]
      exact spares.inside _ (by simp) (by simp [FileTree.home, Path.home])
    · exact spares.way filled _ (List.mem_cons_of_mem _ (Path.home_mem_trail front some))

namespace DirectoryCheck.Sound

variable {files after : FileTree} {changes : Table Change} {bench : Bench}

theorem setChange (sound : Sound region home standing files changes bench) {change : Change}
    (sparing : change.Sparing region home) (ref : Ref Change) :
    Sound region home standing files (changes.set ref change) bench :=
  { sound with
    changes := fun other => by
      rw [Table.get_set]
      split
      · exact sparing
      · exact sound.changes other }

theorem newChange (sound : Sound region home standing files changes bench) {change : Change}
    (sparing : change.Sparing region home) :
    Sound region home standing files (changes.add change).2 bench :=
  { sound with
    changes := fun other => by
      by_cases own : other = (changes.add change).1
      · rw [own, Table.get_add_self]
        exact sparing
      · rw [Table.get_add_of_ne _ _ fun same => own (Ref.eq_iff.mpr same)]
        exact sound.changes other }

theorem setFiles (sound : Sound region home standing files changes bench)
    (ground : after.ground = files.ground) (stands : ∀ place, FileTree.Stands files after place) :
    Sound region home standing after changes bench :=
  { sound with
    workingDirectory :=
      (FileTree.workingDirectory_of_ground ground).trans sound.workingDirectory
    stands := fun place asked =>
      have ⟨bits, here⟩ := sound.stands place asked
      stands place bits here }

end DirectoryCheck.Sound

abbrev DirectoryCheck.Beside (region : Region) (home : Location) (standing : Location → Prop) :
    World → World → Prop :=
  World.Alike region (Sound region home standing)

namespace Change

open DirectoryCheck World

theorem Sparing.of_applier {change other : Change} (sparing : change.Sparing region home)
    (applier : other.applier = change.applier)
    (target : region.SparesTarget home other.targetOrNull) : other.Sparing region home :=
  { unscripted := applier ▸ sparing.unscripted, canary := applier ▸ sparing.canary, target }

section

variable {change : Change} (sparing : change.Sparing region home)

include sparing

theorem Sparing.withReverter (reverter : Option RevertFunction) :
    Sparing region home { change with reverter := reverter } :=
  sparing.of_applier rfl sparing.target

theorem Sparing.withError (error : ChangeError) : (change.withError error).Sparing region home :=
  sparing.of_applier rfl sparing.target

theorem Sparing.spoiled (error : ChangeError) : (change.spoiled error).Sparing region home :=
  sparing.of_applier rfl sparing.target

theorem Sparing.afterRevert : change.afterRevert.Sparing region home :=
  sparing.of_applier rfl sparing.target

theorem Sparing.afterApply {target : Json} (spares : region.SparesTarget home target) :
    (change.afterApply target).Sparing region home :=
  sparing.of_applier rfl spares

end

theorem beside_setChange {change : Change} (sparing : change.Sparing region home)
    (ref : Ref Change) : Respects (Beside region home standing) (Task.setChange ref change) :=
  fun _ _ ⟨alike, sound⟩ => ⟨rfl, .of alike (sound.setChange sparing ref)⟩

theorem beside_files {α : Type} {work : Task α} {operation : FileTree → Except Cause FileTree}
    (sparing : FileTree.Sparing region home operation) {refused : Cause → α} {done : α}
    (fails : ∀ world cause, operation world.files = .error cause →
      work world = (.done (refused cause), world))
    (works : ∀ world files, operation world.files = .ok files →
      work world = (.done done, { world with files := files })) :
    Respects (Beside region home standing) work := by
  rintro first _ ⟨alike, sound⟩
  have home : first.files.workingDirectory = home := sound.workingDirectory
  rcases alike.agree (home ▸ sparing) with
    ⟨cause, one, other⟩ | ⟨after, after', one, other, outside, same⟩
  · rw [fails first cause one, fails _ cause other]
    exact ⟨rfl, .of alike sound⟩
  · rw [works first after one, works _ after' other]
    have kept := sound.setFiles (sparing.ground outside) (sparing.stands outside)
    exact ⟨rfl, @World.Alike.of _ _ { first with files := after } _ _ same kept⟩

theorem beside_permissions {α : Type} {path : String} (spares : region.Spares home path)
    {refused : Cause → α} {next : Permissions → Task α}
    (rest : ∀ bits, Respects (Beside region home standing) (next bits)) :
    Respects (Beside region home standing) fun world =>
      match world.files.permissions path with
      | .error cause => (.done (refused cause), world)
      | .ok bits => next bits world := by
  rintro first _ ⟨alike, sound⟩
  have home : first.files.workingDirectory = home := sound.workingDirectory
  simp only [alike.permissions (home ▸ spares)]
  cases first.files.permissions path with
  | error cause => exact ⟨rfl, .of alike sound⟩
  | ok bits => exact rest bits first _ (.of alike sound)

section

variable {directory : String} (spares : region.SparesWithin home directory)

include spares

theorem beside_markReadonlyIn : Respects (Beside region home standing)
    (markReadonlyIn (.object [("dir", .text directory)])) := by
  unfold markReadonlyIn
  simp only [Json.member?_single, Option.bind_some, Json.text?]
  refine beside_permissions spares.way fun bits => ?_
  apply beside_files (FileTree.sparing_setPermissions spares.way bits.withoutWrite)
  · intro world cause refused
    simp only [refused]
    rfl
  · intro world files set
    simp only [set]
    rfl

theorem yields_markReadonlyIn :
    Yields (fun answer => ∀ marked, answer = .ok marked → region.SparesTarget home marked.1)
      (markReadonlyIn (.object [("dir", .text directory)])) := by
  intro world answer after run marked made
  simp only [markReadonlyIn, Json.member?_single, Option.bind_some, Json.text?] at run
  split at run
  · cases run
    cases made
  · split at run
    · cases run
      cases made
    · cases run
      cases made
      exact Region.sparesTarget_path spares.way

theorem beside_writeFileIn (filled : directory ≠ "") (number : Nat) (content : String) :
    Respects (Beside region home standing)
      (writeFileIn (canaryName number) content (.object [("dir", .text directory)])) := by
  apply beside_files (FileTree.sparing_write (spares.canary filled number) content)
  · intro world cause refused
    simp only [writeFileIn, Json.member?_single, Option.bind_some, Json.text?, refused]
    rfl
  · intro world files written
    simp only [writeFileIn, Json.member?_single, Option.bind_some, Json.text?, written]
    rfl

end

theorem beside_removeFileOf {target : Json} (spares : region.SparesTarget home target) :
    Respects (Beside region home standing) (removeFileOf target) := by
  cases named : (target.member? "path").bind Json.text? with
  | none =>
    unfold removeFileOf
    rw [named]
    exact respects_pure _
  | some path =>
    apply beside_files (FileTree.sparing_removeFile (spares path named))
    · intro world cause refused
      simp only [removeFileOf, named, refused]
      rfl
    · intro world files removed
      simp only [removeFileOf, named, removed]
      rfl

theorem beside_restorePermissionsOf {target : Json} (spares : region.SparesTarget home target)
    (noted : Option Permissions) :
    Respects (Beside region home standing) (restorePermissionsOf noted target) := by
  cases named : (target.member? "path").bind Json.text? with
  | none =>
    unfold restorePermissionsOf
    rw [named]
    exact respects_pure _
  | some path =>
    cases noted with
    | none =>
      unfold restorePermissionsOf
      rw [named]
      exact respects_pure _
    | some bits =>
      apply beside_files (FileTree.sparing_setPermissions (spares path named) bits)
      · intro world cause refused
        simp only [restorePermissionsOf, named, refused]
        rfl
      · intro world files set
        simp only [restorePermissionsOf, named, set]
        rfl

theorem beside_callRevert {change : Change} (sparing : change.Sparing region home)
    (ref : Ref Change) (function : RevertFunction) :
    Respects (Beside region home standing) (callRevert ref change.targetOrNull function) := by
  cases function with
  | scripted replies =>
    rintro first _ ⟨alike, sound⟩
    rw [callRevert_scripted, callRevert_scripted]
    exact ⟨rfl, .of alike (sound.setChange ((sound.changes ref).withReverter _) ref)⟩
  | removeFile => exact beside_removeFileOf sparing.target
  | restorePermissions noted =>
    exact Alike.read (fun _ _ _ => rfl) fun world sound =>
      respects_bind (beside_setChange ((sound.changes ref).withReverter _) ref) fun _ =>
        beside_restorePermissionsOf sparing.target noted

theorem beside_revert (ref : Ref Change) :
    Respects (Beside region home standing) (Change.revert ref) := by
  refine Alike.read (fun _ _ _ => rfl) fun world sound =>
    respects_ite (respects_pure _) (respects_ite (respects_pure _) ?_)
  have sparing : (world.change ref).Sparing region home := sound.changes ref
  cases (world.change ref).reverter with
  | none =>
    exact respects_bind (beside_setChange (sparing.spoiled _) ref) fun _ => respects_pure _
  | some function =>
    refine respects_bind (beside_callRevert sparing ref function) fun answer =>
      Alike.read (fun _ _ _ => rfl) fun world sound => ?_
    have sparing : (world.change ref).Sparing region home := sound.changes ref
    cases answer with
    | ok value =>
      exact respects_bind (beside_setChange sparing.afterRevert ref) fun _ => respects_pure _
    | error reason =>
      exact respects_bind (beside_setChange (sparing.spoiled _) ref) fun _ => respects_pure _

section

variable {directory : String} (spares : region.SparesWithin home directory)
  (filled : directory ≠ "")

include spares filled

theorem beside_callApply {change : Change} (sparing : change.Sparing region home)
    {function : ApplyFunction} (own : change.applier = some function) (ref : Ref Change)
    (service : String) : Respects (Beside region home standing)
      (callApply ref service (.object [("dir", .text directory)]) function) := by
  cases function with
  | scripted replies => exact absurd own (sparing.unscripted replies)
  | writeFile name content =>
    obtain ⟨number, rfl⟩ := sparing.canary name content own
    exact beside_writeFileIn spares filled number content
  | markReadonly =>
    refine respects_bind (beside_markReadonlyIn spares) fun answer => ?_
    cases answer with
    | error reason => exact respects_pure _
    | ok marked =>
      exact Alike.read (fun _ _ _ => rfl) fun world sound =>
        respects_bind (beside_setChange ((sound.changes ref).withReverter _) ref) fun _ =>
          respects_pure _

theorem yields_callApply {change : Change} (sparing : change.Sparing region home)
    {function : ApplyFunction} (own : change.applier = some function) (ref : Ref Change)
    (service : String) :
    Yields (fun answer => ∀ target, answer = .ok target → region.SparesTarget home target)
      (callApply ref service (.object [("dir", .text directory)]) function) := by
  cases function with
  | scripted replies => exact absurd own (sparing.unscripted replies)
  | writeFile name content =>
    obtain ⟨number, rfl⟩ := sparing.canary name content own
    intro world answer after run target made
    simp only [callApply, writeFileIn, Json.member?_single, Option.bind_some, Json.text?] at run
    split at run
    · cases run
      cases made
    · cases run
      cases made
      exact Region.sparesTarget_path (spares.canary filled number)
  | markReadonly =>
    refine yields_bind_of (yields_markReadonlyIn spares) fun answer spared => ?_
    cases answer with
    | error reason => exact yields_pure fun _ same => by cases same
    | ok marked =>
      refine yields_bind fun _ => yields_bind fun _ => yields_pure fun target same => ?_
      cases same
      exact spared marked rfl

theorem beside_apply (ref : Ref Change) (service : String) :
    Respects (Beside region home standing)
      (Change.apply ref service (.object [("dir", .text directory)])) := by
  refine Alike.read (fun _ _ _ => rfl) fun world sound => respects_ite (respects_pure _) ?_
  have sparing : (world.change ref).Sparing region home := sound.changes ref
  cases (world.change ref).lacks? with
  | some error =>
    exact respects_bind (beside_setChange (sparing.withError error) ref) fun _ => respects_pure _
  | none =>
    cases own : (world.change ref).applier with
    | none => exact respects_pure _
    | some function =>
      refine respects_ite (respects_pure _) (matches_bind_of
        (beside_callApply spares filled sparing own ref service)
        (yields_callApply spares filled sparing own ref service) fun answer spared => ?_)
      refine Alike.read (fun _ _ _ => rfl) fun world sound => ?_
      have sparing : (world.change ref).Sparing region home := sound.changes ref
      cases answer with
      | ok target =>
        exact respects_bind (beside_setChange (sparing.afterApply (spared target rfl)) ref)
          fun _ => respects_pure _
      | error reason =>
        exact respects_bind (beside_setChange (sparing.spoiled _) ref) fun _ => respects_pure _

theorem apply_spares {first second : World} (beside : Beside region home standing first second)
    {ref : Ref Change} {service : String} {target : Json} {after : World}
    (run : Change.apply ref service (.object [("dir", .text directory)]) first =
      (.done (.ok target), after)) : region.SparesTarget home target := by
  obtain ⟨-, sound⟩ := beside
  have sparing : (first.change ref).Sparing region home := sound.changes ref
  cases apply_cases run with
  | live fine whole live => exact sparing.target
  | made fine whole idle own call =>
    exact yields_callApply spares filled sparing own ref service first _ _ call target rfl

end

end Change

namespace ChangeManager

open DirectoryCheck World

variable {directory : String} (spares : region.SparesWithin home directory)
  (filled : directory ≠ "")

include spares filled

theorem beside_apply (manager : ChangeManager) (name service : String) :
    Respects (Beside region home standing)
      (manager.apply name service (.object [("dir", .text directory)])) := by
  refine respects_ite (respects_bind (Alike.emit _) fun _ => respects_pure _) ?_
  cases manager.changes.get? name with
  | none => exact respects_pure _
  | some ref =>
    refine respects_bind (Change.beside_apply spares filled ref service) fun answer => ?_
    cases answer with
    | ok target => exact respects_pure _
    | error error => exact respects_bind (Alike.emit _) fun _ => respects_pure _

theorem apply_spares {first second : World} (beside : Beside region home standing first second)
    {manager kept : ChangeManager} {name service : String} {target : Json} {after : World}
    (run : manager.apply name service (.object [("dir", .text directory)]) first =
      (.done (some target, kept), after)) : region.SparesTarget home target := by
  unfold apply at run
  split at run
  · cases run
  · cases held : manager.changes.get? name with
    | none => simp [held, pure_apply] at run
    | some ref =>
      simp only [held] at run
      obtain ⟨answer, middle, applied, later⟩ := bind_eq_done run
      cases answer with
      | ok found =>
        cases later
        exact Change.apply_spares spares filled beside applied
      | error error => cases later

end ChangeManager

namespace DirectoryCheck

open World

theorem carried (region : Region) (home : Location) (standing : Location → Prop) :
    Carried (Beside region home standing) := alike_carried Change.beside_revert

def Spared (region : Region) (home : Location) (vars : Dict String) : Prop :=
  ∀ directory, vars.get? targetVar = some directory → directory ≠ "" →
    region.SparesWithin home directory

variable {context : StrikeContext} (spared : Spared region home context.vars)

include spared

theorem Spared.way {directory : String} (var : context.vars.get? targetVar = some directory) :
    region.Spares home directory := fun filled => (spared directory var filled).way filled

theorem beside_look (look : Look) :
    Respects (Beside region home standing) (look.movement context) := by
  rintro first _ ⟨alike, sound⟩
  obtain rfl : first.files.workingDirectory = home := sound.workingDirectory
  cases var : context.vars.get? targetVar with
  | none =>
    cases look <;>
      simp only [Look.movement, checkIsDirectory, listEntries, readPermissions, target, var] <;>
      exact ⟨trivial, .of alike sound⟩
  | some directory =>
    cases look with
    | directory =>
      have seen : _ = first.files.isDirectory directory := alike.isDirectory (spared.way var)
      simp only [Look.movement, checkIsDirectory, target, var, seen]
      cases first.files.isDirectory directory <;> exact ⟨rfl, .of alike sound⟩
    | entries =>
      have seen : _ = first.files.countEntries directory :=
        alike.countEntries (spared.way var) fun filled => (spared directory var filled).inside
      simp only [Look.movement, listEntries, target, var, seen]
      cases first.files.countEntries directory <;> exact ⟨rfl, .of alike sound⟩
    | permissions =>
      have seen : _ = first.files.permissions directory := alike.permissions (spared.way var)
      simp only [Look.movement, readPermissions, target, var, seen]
      cases first.files.permissions directory <;> exact ⟨rfl, .of alike sound⟩

end DirectoryCheck

namespace Probe

open DirectoryCheck World

variable {context : StrikeContext}

theorem beside_make (probe : Probe) :
    Respects (Beside region home standing) (probe.make context) := by
  have fresh {change : Change} (unscripted : ∀ replies, change.applier ≠ some (.scripted replies))
      (canary : ∀ name content, change.applier = some (.writeFile name content) →
        ∃ number, name = canaryName number) (new : change.targetOrNull = .null) :
      Respects (Beside region home standing) (Task.newChange change) := by
    have sparing : change.Sparing region home := ⟨unscripted, canary, fun path named => by
      rw [new] at named
      cases named⟩
    exact fun _ _ ⟨alike, sound⟩ => ⟨rfl, .of alike (sound.newChange sparing)⟩
  cases probe with
  | canaryFile =>
    have numbered : Yields (fun text => ∃ number, text = identifierText number)
        freshIdentifier := by
      intro world text after run
      simp only [freshIdentifier, Prod.mk.injEq, Outcome.done.injEq] at run
      exact ⟨_, run.1.symm⟩
    refine matches_bind_of (fun _ _ ⟨alike, sound⟩ => ⟨rfl, .of alike sound⟩) numbered ?_
    rintro _ ⟨number, rfl⟩
    refine fresh (fun _ same => by cases same) (fun name content same => ?_) rfl
    cases same
    exact ⟨number, rfl⟩
  | readonlyFlag =>
    exact fresh (fun _ same => by cases same) (fun _ _ same => by cases same) rfl

section

variable {directory : String} (spares : region.SparesWithin home directory)

include spares

theorem beside_conclude {applied : Option Json}
    (spared : ∀ target, applied = some target → region.SparesTarget home target) (probe : Probe)
    (manager : ChangeManager) :
    Respects (Beside region home standing) (probe.conclude context directory applied manager) := by
  rintro first _ ⟨alike, sound⟩
  obtain rfl : first.files.workingDirectory = home := sound.workingDirectory
  have seen : ∀ files, FileTree.Alike region first.files files →
      probe.verdict context directory files applied =
        probe.verdict context directory first.files applied := by
    intro files alike
    cases probe with
    | canaryFile =>
      cases applied with
      | none => rfl
      | some written =>
        have read : ∀ path, (written.member? "path").bind Json.text? = path →
            files.read (path.getD "") = first.files.read (path.getD "") := by
          rintro path named
          cases path with
          | none => rfl
          | some path => exact alike.read (spared written rfl path named)
        simp only [verdict, canaryVerdict, read _ rfl]
    | readonlyFlag =>
      cases applied with
      | none => rfl
      | some marked => simp only [verdict, readonlyVerdict, alike.permissions spares.way]
  -- Only the verdict looks at the files, at what the change was made on.
  simp only [conclude, bind_apply, read_apply, pure_apply, seen _ alike]
  exact ⟨trivial, .of alike sound⟩

theorem beside_attempt (filled : directory ≠ "") (probe : Probe) (ref : Ref Change) :
    Respects (Beside region home standing) (probe.attempt context directory ref) := by
  refine respects_bind ((carried region home standing).add Alike.track _ _ ref) fun manager => ?_
  refine matches_bind_from (manager.beside_apply spares filled _ _) ?_
    fun answer spared => beside_conclude spares spared probe answer.2
  rintro first second beside ⟨applied, kept⟩ after run target rfl
  exact manager.apply_spares spares filled beside run

end

theorem existingTarget_alike (spared : Spared region home context.vars) {first second : FileTree}
    (start : first.workingDirectory = home) (alike : FileTree.Alike region first second) :
    existingTarget second context = existingTarget first context := by
  subst start
  unfold existingTarget target
  cases var : context.vars.get? targetVar with
  | none => rfl
  | some directory => simp only [alike.isDirectory (spared.way var)]

theorem beside_movement (spared : Spared region home context.vars) (probe : Probe) :
    Respects (Beside region home standing) (probe.movement context) := by
  refine respects_read ?_ fun world => ?_
  · rintro first _ ⟨alike, sound⟩
    have start : first.files.workingDirectory = home := sound.workingDirectory
    rw [existingTarget_alike spared start alike]
  · cases there : existingTarget world.files context with
    | error message => exact respects_pure _
    | ok directory =>
      have var := (existingTarget_eq_ok.mp there).1
      have filled := filled_of_existing there
      exact respects_bind (beside_make probe) fun ref =>
        beside_attempt (spared directory var filled) filled probe ref

end Probe

/-- A check sees nothing of a region that has nothing of its target. -/
theorem DirectoryCheck.beside_run {context : StrikeContext}
    (spared : Spared region home context.vars) (check : DirectoryCheck) :
    Respects (Beside region home standing) (check.run context) := by
  have carried := carried region home standing
  refine respects_bind
    (carried.executeMovement World.Alike.track _ _ (beside_look spared check.look)) fun result => ?_
  unfold closing
  cases check.probe with
  | none => exact respects_pure _
  | some probe =>
    exact respects_ite
      (carried.executeMovement World.Alike.track _ _ (probe.beside_movement spared))
      (respects_bind (World.Alike.emit _) fun _ => respects_pure _)

end Raid
