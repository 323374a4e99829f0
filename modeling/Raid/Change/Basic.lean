import Raid.Change.Error
import Raid.Files.Permissions
import Raid.Json.Basic
import Raid.Outcome
import Raid.Text.Quoted

/-!
Changes: named mutations of a target, each with a function that makes it and one that undoes it,
and the record of which of the two has run.
-/

namespace Raid

inductive Reply where
  | value (value : Json)
  /-- The answer shows what the function was called with. -/
  | echo
  /-- The causes of a failure, the outermost first. -/
  | failure (causes : List String)
  | panic (payload : Payload)
  deriving Repr

inductive ApplyFunction where
  /-- Answers call by call; the last answer repeats. -/
  | scripted (replies : List Reply)
  /-- Writes a new file into the directory it is given. -/
  | writeFile (name content : String)
  /-- Clears the write bits of the directory it is given. -/
  | markReadonly
  deriving Repr

inductive RevertFunction where
  | scripted (replies : List Reply)
  /-- Removes the file that was written. -/
  | removeFile
  /-- Gives a directory the permissions that it had, if they were noted. -/
  | restorePermissions (noted : Option Permissions)
  deriving Repr

/-- A change and how far it has come. `reverted` is layered on top of `applied`; a change in bad
state is inert. -/
structure Change where
  name : String
  description : String := ""
  applier : Option ApplyFunction := none
  reverter : Option RevertFunction := none
  applied : Bool := false
  reverted : Bool := false
  badState : Bool := false
  lastError : Option ChangeError := none
  /-- What the last successful apply returned. -/
  target : Option Json := none
  deriving Repr

namespace Change

instance : Inhabited Change := ⟨⟨"", "", none, none, false, false, false, none, none⟩⟩

def live (change : Change) : Bool := change.applied && !change.reverted

def inertError (change : Change) : ChangeError :=
  .inert change.name ((change.lastError.map ChangeError.message).getD "unknown error")

/-- What a change lacks that is needed to apply it. -/
def lacks? (change : Change) : Option ChangeError :=
  if change.name.isEmpty then some .missingName
  else if change.description.isEmpty then some (.missingDescription change.name)
  else if change.applier.isNone then some (.missingApply change.name)
  else if change.reverter.isNone then some (.missingRevert change.name)
  else none

def withError (change : Change) (error : ChangeError) : Change :=
  { change with lastError := some error }

def spoiled (change : Change) (error : ChangeError) : Change :=
  { change with badState := true, lastError := some error }

def afterApply (change : Change) (target : Json) : Change :=
  { change with applied := true, reverted := false, target := some target }

def afterRevert (change : Change) : Change := { change with reverted := true }

def targetOrNull (change : Change) : Json := change.target.getD .null

def debugText (change : Change) : String :=
  let flag (value : Bool) : String := if value then "true" else "false"
  "Change \x7b name: " ++ Text.shown change.name ++ ", applied: " ++ flag change.applied ++
    ", reverted: " ++ flag change.reverted ++ ", bad_state: " ++ flag change.badState ++
    ", .. \x7d"

end Change

structure ChangeRecord where
  name : String
  description : String
  applied : Bool
  reverted : Bool
  badState : Bool
  error : Option String
  deriving Repr, DecidableEq

namespace Change

def record (change : Change) : ChangeRecord :=
  ⟨change.name, change.description, change.applied, change.reverted, change.badState,
    change.lastError.map ChangeError.message⟩

end Change

/-- A change made from a record has its flags and no functions: it can be inspected, not applied
again. -/
def ChangeRecord.toChange (record : ChangeRecord) : Change :=
  { name := record.name, description := record.description, applied := record.applied,
    reverted := record.reverted, badState := record.badState,
    lastError := record.error.map (ChangeError.inert record.name ·) }

end Raid
