import Raid.Identifier
import Raid.Manager
import Raid.Strike.Result

/-!
Checks of a directory on the local machine, which the service names by a var. The checks that
write only run when invasive movements are permitted, and whatever they write is a change that is
undone when the strike is followed through.
-/

namespace Raid

inductive Look where
  | directory
  | entries
  | permissions
  deriving Repr, DecidableEq

inductive Probe where
  | canaryFile
  | readonlyFlag
  deriving Repr, DecidableEq

/-- A check of a directory: it looks, and then may try a change of the target. -/
structure DirectoryCheck where
  description : String
  look : Look
  probe : Option Probe := none
  deriving Repr, DecidableEq

namespace DirectoryCheck

def targetVar : String := "target_dir"

def target (context : StrikeContext) : Except String String :=
  match context.vars.get? targetVar with
  | some directory => .ok directory
  | none =>
    .error ("Service '" ++ context.service ++ "' does not set the '" ++ targetVar ++ "' var")

/-- The directory under test if it is there, so that no change fails for so plain a reason. -/
def existingTarget (files : FileTree) (context : StrikeContext) : Except String String :=
  match target context with
  | .error message => .error message
  | .ok directory =>
    if files.isDirectory directory then .ok directory
    else .error (directory ++ " is not a directory")

abbrev Movement := MovementReport (Ref Change)

def checkIsDirectory (context : StrikeContext) : Task Movement := fun world =>
  let movement : Movement := { description := "Target directory exists" }
  match target context with
  | .error message => (.done (movement.fail message), world)
  | .ok directory =>
    if world.files.isDirectory directory then
      (.done { movement.pass (directory ++ " is a directory") with value := .text directory }, world)
    else (.done (movement.fail (directory ++ " is not a directory")), world)

def listEntries (context : StrikeContext) : Task Movement := fun world =>
  let movement : Movement := { description := "Read directory entries" }
  match target context with
  | .error message => (.done (movement.fail message), world)
  | .ok directory =>
    match world.files.countEntries directory with
    | .ok count =>
      (.done { movement.pass ("Listed " ++ toString count ++ " entries in " ++ directory) with
        value := .nat count }, world)
    | .error cause =>
      (.done (movement.fail ("Could not list " ++ directory ++ ": " ++ cause.message)), world)

def readPermissions (context : StrikeContext) : Task Movement := fun world =>
  let movement : Movement := { description := "Read the target's current permissions" }
  match target context with
  | .error message => (.done (movement.fail message), world)
  | .ok directory =>
    match world.files.permissions directory with
    | .ok permissions =>
      (.done { movement.pass ("Read permissions of " ++ directory) with
        value := .object [("readonly", .flag permissions.readonly)] }, world)
    | .error cause =>
      (.done (movement.fail ("Could not stat " ++ directory ++ ": " ++ cause.message)), world)

def canaryFile (name content : String) : Change :=
  { name := "canary_file", description := "Create a canary file in the target directory"
    applier := some (.writeFile name content), reverter := some .removeFile }

def readonlyFlag : Change :=
  { name := "readonly_flag", description := "Mark the target directory read-only"
    applier := some .markReadonly, reverter := some (.restorePermissions none) }

def canaryVerdict (files : FileTree) (movement : Movement) (directory content : String)
    (written : Json) : Movement :=
  match files.read (((written.member? "path").bind Json.text?).getD "") with
  | .ok read =>
    if read = content then
      { movement.pass ("Canary file written to " ++ directory) with value := written }
    else movement.fail "Canary file content did not match what was written"
  | .error cause => movement.fail ("Canary file could not be read back: " ++ cause.message)

def readonlyVerdict (files : FileTree) (movement : Movement) (directory : String)
    (marked : Json) : Movement :=
  match files.permissions directory with
  | .ok permissions =>
    if permissions.readonly then
      { movement.pass (directory ++ " is now read-only") with value := marked }
    else movement.fail "Read-only flag did not stick"
  | .error cause => movement.fail ("Could not stat " ++ directory ++ ": " ++ cause.message)

end DirectoryCheck

namespace Look

open DirectoryCheck

def name : Look → String
  | directory => "check_is_directory"
  | entries => "list_entries"
  | permissions => "read_permissions"

def movement (context : StrikeContext) : Look → Task Movement
  | directory => checkIsDirectory context
  | entries => listEntries context
  | permissions => readPermissions context

end Look

namespace Probe

open DirectoryCheck

def name : Probe → String
  | canaryFile => "write_canary_file"
  | readonlyFlag => "toggle_readonly"

def description : Probe → String
  | canaryFile => "Write and read back a canary file"
  | readonlyFlag => "Flip the read-only flag"

def canaryContent (context : StrikeContext) : String := "raidengine canary for " ++ context.service

def make (context : StrikeContext) : Probe → Task (Ref Change)
  | canaryFile => do
    let identifier ← freshIdentifier
    Task.newChange
      (DirectoryCheck.canaryFile (".raidengine-canary-" ++ identifier) (canaryContent context))
  | readonlyFlag => Task.newChange DirectoryCheck.readonlyFlag

def changeName : Probe → String
  | canaryFile => "canary_file"
  | readonlyFlag => "readonly_flag"

def verdict (context : StrikeContext) (directory : String) (files : FileTree)
    (applied : Option Json) (probe : Probe) : Movement :=
  let movement : Movement := { description := probe.description }
  match probe, applied with
  | canaryFile, some written =>
    canaryVerdict files movement directory (canaryContent context) written
  | canaryFile, none => movement.fail ("Could not write a canary file to " ++ directory)
  | readonlyFlag, some marked => readonlyVerdict files movement directory marked
  | readonlyFlag, none => movement.fail ("Could not change permissions of " ++ directory)

def conclude (context : StrikeContext) (directory : String) (probe : Probe)
    (applied : Option Json) (manager : ChangeManager) : Task Movement := do
  let files := (← Act.read).files
  pure ((probe.verdict context directory files applied).withChanges manager.changes)

def apply (context : StrikeContext) (directory : String) (probe : Probe)
    (manager : ChangeManager) : Task Movement := do
  let (applied, manager) ←
    manager.apply probe.changeName context.service (.object [("dir", .text directory)])
  probe.conclude context directory applied manager

def attempt (context : StrikeContext) (directory : String) (probe : Probe) (ref : Ref Change) :
    Task Movement := do
  let manager ← context.changeManager.add probe.changeName ref
  probe.apply context directory manager

def movement (context : StrikeContext) (probe : Probe) : Task Movement := do
  match existingTarget (← Act.read).files context with
  | .error message => pure ({ description := probe.description : Movement }.fail message)
  | .ok directory => do
    let ref ← probe.make context
    probe.attempt context directory ref

end Probe

namespace DirectoryCheck

def opening (context : StrikeContext) (check : DirectoryCheck) : Task StrikeResult :=
  (context.strikeResult check.description).executeMovement check.look.name
    (check.look.movement context)

def closing (context : StrikeContext) (check : DirectoryCheck) (result : StrikeResult) :
    Task StrikeResult :=
  match check.probe with
  | some probe => result.executeInvasiveMovement probe.name (probe.movement context)
  | none => pure result

def run (context : StrikeContext) (check : DirectoryCheck) : Task StrikeResult := do
  let result ← check.opening context
  check.closing context result

def present : DirectoryCheck := ⟨"The target directory is present", .directory, none⟩

def listable : DirectoryCheck := ⟨"The target directory's entries can be read", .entries, none⟩

def canaryWrite : DirectoryCheck :=
  ⟨"The target directory accepts new files", .directory, some .canaryFile⟩

def permissions : DirectoryCheck :=
  ⟨"The target directory's permissions can be changed and restored", .permissions,
    some .readonlyFlag⟩

end DirectoryCheck

end Raid
