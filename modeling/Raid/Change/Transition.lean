import Raid.World

/-!
Applying and reverting a change. Every transition reads and writes the one state that all holders
of the change share.
-/

namespace Raid.Change

/-- The answer to the next call, and the answers for the calls after it. The last one repeats. -/
def nextReply : List Reply → Reply × List Reply
  | [] => (.value .null, [])
  | [last] => (last, [last])
  | reply :: rest => (reply, rest)

/-- Causes of a failure in one text, the outermost first. -/
def reasonText (causes : List String) : String := ": ".intercalate causes

def refused (attempt : String) (cause : Cause) : String := attempt ++ ": " ++ cause.message

def writeFileIn (name content : String) (input : Json) : Task (Except String Json) := fun world =>
  match (input.member? "dir").bind Json.text? with
  | none => (.done (.error "canary input has no directory"), world)
  | some directory =>
    let path := Path.join directory name
    match world.files.write path content with
    | .error cause => (.done (.error (refused ("Failed to write canary file " ++ path) cause)), world)
    | .ok files => (.done (.ok (.object [("path", .text path)])), { world with files := files })

/-- Clears the write bits of the directory that the input names, and gives the revert function
that brings back what was there. -/
def markReadonlyIn (input : Json) : Task (Except String (Json × RevertFunction)) := fun world =>
  match (input.member? "dir").bind Json.text? with
  | none => (.done (.error "permissions input has no directory"), world)
  | some directory =>
    match world.files.permissions directory with
    | .error cause =>
      (.done (.error (refused ("Failed to read permissions of " ++ directory) cause)), world)
    | .ok before =>
      match world.files.setPermissions directory before.withoutWrite with
      | .error cause =>
        (.done (.error (refused ("Failed to mark " ++ directory ++ " read-only") cause)), world)
      | .ok files =>
        (.done (.ok (.object [("path", .text directory)], .restorePermissions (some before))),
          { world with files := files })

/-- Calls the apply function. A failure is given as the reason, and a success may replace the
revert function by one that knows more. -/
def callApply (ref : Ref Change) (targetName : String) (input : Json) :
    ApplyFunction → Task (Except String Json)
  | .scripted replies => do
    let (reply, rest) := nextReply replies
    let change := (← Act.read).change ref
    Task.emit (.applyCalled change.name targetName input)
    Task.setChange ref { change with applier := some (.scripted rest) }
    match reply with
    | .value value => pure (.ok value)
    | .echo => pure (.ok (.object [("input", input), ("target", .text targetName)]))
    | .failure causes => pure (.error (reasonText causes))
    | .panic payload => Act.panic payload
  | .writeFile name content => writeFileIn name content input
  | .markReadonly => do
    match ← markReadonlyIn input with
    | .error reason => pure (.error reason)
    | .ok (target, revert) =>
      let change := (← Act.read).change ref
      Task.setChange ref { change with reverter := some revert }
      pure (.ok target)

def removeFileOf (target : Json) : Task (Except String Unit) := fun world =>
  match (target.member? "path").bind Json.text? with
  | none => (.done (.error "canary target has no path"), world)
  | some path =>
    match world.files.removeFile path with
    | .error cause =>
      (.done (.error (refused ("Failed to remove canary file " ++ path) cause)), world)
    | .ok files => (.done (.ok ()), { world with files := files })

def restorePermissionsOf (noted : Option Permissions) (target : Json) : Task (Except String Unit) :=
  fun world =>
    match (target.member? "path").bind Json.text?, noted with
    | none, _ => (.done (.error "permissions target has no path"), world)
    | some _, none => (.done (.error "original permissions were not recorded"), world)
    | some directory, some before =>
      match world.files.setPermissions directory before with
      | .error cause =>
        (.done (.error (refused ("Failed to restore permissions of " ++ directory) cause)), world)
      | .ok files => (.done (.ok ()), { world with files := files })

def callRevert (ref : Ref Change) (target : Json) : RevertFunction → Task (Except String Unit)
  | .scripted replies => do
    let (reply, rest) := nextReply replies
    let change := (← Act.read).change ref
    Task.emit (.revertCalled change.name target)
    Task.setChange ref { change with reverter := some (.scripted rest) }
    match reply with
    | .value _ => pure (.ok ())
    | .echo => pure (.ok ())
    | .failure causes => pure (.error (reasonText causes))
    | .panic payload => Act.panic payload
  | .removeFile => removeFileOf target
  | .restorePermissions noted => do
    let change := (← Act.read).change ref
    Task.setChange ref { change with reverter := some (.restorePermissions none) }
    restorePermissionsOf noted target

/-- Applies a change. One that is live is not applied again: its target is returned. A change that
lacks a part is left alone but for the error; a failure of the apply function is final. -/
def apply (ref : Ref Change) (targetName : String) (input : Json) :
    Task (Except ChangeError Json) := do
  let change := (← Act.read).change ref
  if change.badState then
    pure (.error change.inertError)
  else
    match change.lacks?, change.applier with
    | some error, _ =>
      Task.setChange ref (change.withError error)
      pure (.error error)
    | none, none => pure (.error (.missingApply change.name))
    | none, some function =>
      if change.live then
        pure (.ok change.targetOrNull)
      else
        let answer ← callApply ref targetName input function
        let change := (← Act.read).change ref
        match answer with
        | .ok target =>
          Task.setChange ref (change.afterApply target)
          pure (.ok target)
        | .error reason =>
          let error := ChangeError.applyFailed change.name reason
          Task.setChange ref (change.spoiled error)
          pure (.error error)

/-- Reverts a change. One that is not live is left alone. A failure is final. -/
def revert (ref : Ref Change) : Task (Except ChangeError Unit) := do
  let change := (← Act.read).change ref
  if change.badState then
    pure (.error change.inertError)
  else if !change.live then
    pure (.ok ())
  else
    match change.reverter with
    | none =>
      let error := ChangeError.missingRevert change.name
      Task.setChange ref (change.spoiled error)
      pure (.error error)
    | some function =>
      let answer ← callRevert ref change.targetOrNull function
      let change := (← Act.read).change ref
      match answer with
      | .ok () =>
        Task.setChange ref change.afterRevert
        pure (.ok ())
      | .error reason =>
        let error := ChangeError.revertFailed change.name reason
        Task.setChange ref (change.spoiled error)
        pure (.error error)

def nameOf (ref : Ref Change) : Task String := fun world => (.done (world.change ref).name, world)

/-- Reverts changes in turn, going on after a failure, and collects the failures. Each failure is
logged under the given heading. -/
def revertEach (area : LogArea) (heading : String) :
    List (Ref Change) → Task (List ChangeError)
  | [] => pure []
  | ref :: rest => do
    match ← revert ref with
    | .ok () => revertEach area heading rest
    | .error error =>
      let name ← nameOf ref
      Task.log .error area heading [("change", .text name), ("error", .text error.message)]
      let others ← revertEach area heading rest
      pure (error :: others)

end Raid.Change
