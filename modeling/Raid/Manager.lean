import Raid.Ledger

/-!
Managers of changes: one unit of work registers its changes by name and applies and reverts them
by that name.
-/

namespace Raid.ChangeManager

/-- Registers a change under a name, in the manager and in its ledger. An earlier registration of
the name gives way. -/
def add (manager : ChangeManager) (name : String) (change : Ref Change) : Task ChangeManager := do
  match manager.ledger with
  | some ledger => Ledger.track ledger change
  | none => pure ()
  if manager.changes.contains name then
    Task.log .debug .manager "replaced existing change registration" [("change", .text name)]
  pure { manager with changes := manager.changes.insert name change }

/-- Applies the change of a name. Without permission, or for an unknown name, nothing happens; an
error stays on the change. -/
def apply (manager : ChangeManager) (name targetName : String) (input : Json) :
    Task (Option Json × ChangeManager) := do
  if !manager.allowed then
    Task.log .trace .manager "change manager is not allowed to apply changes"
      [("change", .text name)]
    pure (none, manager)
  else
    match manager.changes.get? name with
    | none => pure (none, manager)
    | some ref =>
      match ← Change.apply ref targetName input with
      | .ok target => pure (some target, manager)
      | .error error =>
        Task.log .warn .manager "change was not applied"
          [("change", .text name), ("error", .text error.message)]
        pure (none, { manager with badState := manager.badState || error.isBadState })

/-- Reverts the change of a name. An unknown name is passed over. -/
def revert (manager : ChangeManager) (name : String) :
    Task (Except ChangeError Unit × ChangeManager) := do
  match manager.changes.get? name with
  | none => pure (.ok (), manager)
  | some ref =>
    match ← Change.revert ref with
    | .ok () => pure (.ok (), manager)
    | .error error => pure (.error error, { manager with badState := true })

/-- Reverts changes in turn without a word in the log and collects the failures. -/
def revertQuietly : List (Ref Change) → Task (List ChangeError)
  | [] => pure []
  | ref :: rest => do
    match ← Change.revert ref with
    | .ok () => revertQuietly rest
    | .error error =>
      let others ← revertQuietly rest
      pure (error :: others)

/-- Reverts every change in the order of the names. -/
def revertAll (manager : ChangeManager) : Task (List ChangeError × ChangeManager) := do
  let failures ← revertQuietly manager.changes.values
  pure (failures, { manager with badState := manager.badState || !failures.isEmpty })

end Raid.ChangeManager
