import Raid.Proofs.Change.Pass
import Raid.Strike.Basic

/-!
What the body of a strike can do to the world. Everything that a body does is made of a few
primitive steps, so that a footprint that allows each of them allows every body. Some of the steps
need a permit: a footprint may allow none but certain new changes, and may do without the steps
that record the names of strikes or put a watch into a slot. The step that registers a change stands
apart from the others: what an action does without it is allowed where it is not.
-/

namespace Raid

open Act

/-- What a body may do besides working on what is there: the changes that it may make, whether it may
record names of strikes, and whether it may fill and clear the slots of listeners. -/
structure Permit where
  makes : Change → Prop := fun _ => True
  records : Prop := True
  watches : Prop := True

structure Footprint.Admits (F : Footprint World) (permit : Permit) : Prop where
  emit : ∀ event, event.isCall = false → Within F (Task.emit event)
  newChange : ∀ change, permit.makes change → Within F (Task.newChange change)
  apply : ∀ ref targetName input, Within F (Change.apply ref targetName input)
  revert : ∀ ref, Within F (Change.revert ref)
  newLedger : Within F Task.newLedger
  newExecuted : ∀ names, Within F (Task.newExecuted names)
  recordExecuted : permit.records → ∀ ref name, Within F (Task.recordExecuted ref name)
  newSlot : Within F Task.newSlot
  setSlot : permit.watches → ∀ slot watch, Within F (Task.setSlot slot watch)
  onBench : ∀ f, Within F (Task.onBench f)
  files : ∀ world files, files.ground = world.files.ground →
    F.allows world { world with files := files }
  freshIdentifier : Within F freshIdentifier

/-- The footprint allows every primitive step of the bodies that keep to the permit. -/
structure Footprint.Hosts (F : Footprint World) (permit : Permit) : Prop
    extends F.Admits permit where
  track : ∀ ledger change, Within F (Ledger.track ledger change)

namespace Footprint.Admits

variable {F : Footprint World} {permit : Permit} (admits : F.Admits permit)

include admits

theorem log (level : LogLevel) (area : LogArea) (message : String)
    (fields : List (String × Json) := []) : Within F (Task.log level area message fields) :=
  admits.emit _ rfl

theorem revertAll (ledger : Ref Ledger) : Within F (Ledger.revertAll ledger) :=
  within_bind within_read fun _ =>
    Change.within_revertEach_of admits.revert admits.emit _ _ _

theorem managerApply (manager : ChangeManager) (name targetName : String) (input : Json) :
    Within F (manager.apply name targetName input) := by
  unfold ChangeManager.apply
  refine within_ite (within_bind (admits.log _ _ _ _) fun _ => within_pure _) ?_
  cases manager.changes.get? name with
  | none => exact within_pure _
  | some ref =>
    refine within_bind (admits.apply ref targetName input) fun answer => ?_
    cases answer with
    | ok target => exact within_pure _
    | error error => exact within_bind (admits.log _ _ _ _) fun _ => within_pure _

theorem managerRevert (manager : ChangeManager) (name : String) :
    Within F (manager.revert name) := by
  unfold ChangeManager.revert
  cases manager.changes.get? name with
  | none => exact within_pure _
  | some ref =>
    refine within_bind (admits.revert ref) fun answer => ?_
    cases answer with
    | ok value => exact within_pure _
    | error error => exact within_pure _

theorem revertQuietly (refs : List (Ref Change)) :
    Within F (ChangeManager.revertQuietly refs) := by
  induction refs with
  | nil => exact within_pure []
  | cons ref rest ih =>
    refine within_bind (admits.revert ref) fun answer => ?_
    cases answer with
    | ok value => exact ih
    | error error => exact within_bind ih fun others => within_pure (error :: others)

theorem managerRevertAll (manager : ChangeManager) : Within F manager.revertAll :=
  within_bind (admits.revertQuietly _) fun _ => within_pure _

theorem revertChanges (result : StrikeResult) : Within F result.revertChanges :=
  Change.within_revertEach_of admits.revert admits.emit _ _ _

theorem followThrough (result : StrikeResult) : Within F result.followThrough :=
  within_bind (admits.revertChanges _) fun _ => within_pure _

theorem begin (permitted : permit.watches) (slot : Ref WatchSlot) (tactic : String)
    (ledger : Ref Ledger) : Within F (Watch.begin slot tactic ledger) :=
  admits.setSlot permitted slot _

theorem finish (permitted : permit.watches) (slot : Ref WatchSlot) :
    Within F (Watch.finish slot) := admits.setSlot permitted slot none

theorem cleanUp (slot : Ref WatchSlot) (trigger : String) :
    Within F (Watch.cleanUp slot trigger) := by
  refine within_bind within_read fun world => ?_
  cases (world.slots.get slot).watch with
  | none => exact admits.log _ _ _ _
  | some watch =>
    refine within_bind (admits.log _ _ _ _) fun _ => ?_
    refine within_bind (admits.revertAll watch.ledger) fun failures => ?_
    exact within_ite (admits.log _ _ _ _) (admits.log _ _ _ _)

theorem stop (listener : Listener) : Within F listener.stop :=
  within_ite (admits.log _ _ _ _) (within_pure ())

theorem trigger (listener : Listener) (label : String) : Within F (listener.trigger label) := by
  refine within_ite (admits.log _ _ _ _) ?_
  refine within_bind (within_caught (admits.cleanUp listener.slot label)) fun answer => ?_
  cases answer with
  | error payload => exact within_pure ()
  | ok value => exact within_ite (within_halt _) (within_pure ())

end Footprint.Admits

namespace Footprint.Hosts

variable {F : Footprint World} {permit : Permit} (hosts : F.Hosts permit)

include hosts

theorem trackEach (ledger : Ref Ledger) (refs : List (Ref Change)) :
    Within F (Ledger.trackEach ledger refs) := by
  induction refs with
  | nil => exact within_pure ()
  | cons ref rest ih => exact within_bind (hosts.track ledger ref) fun _ => ih

theorem managerAdd (manager : ChangeManager) (name : String) (ref : Ref Change) :
    Within F (manager.add name ref) := by
  unfold ChangeManager.add
  cases manager.ledger with
  | some ledger =>
    exact within_bind (hosts.track ledger ref) fun _ =>
      within_ite (within_bind (hosts.log _ _ _ _) fun _ => within_pure _) (within_pure _)
  | none => exact within_ite (within_bind (hosts.log _ _ _ _) fun _ => within_pure _) (within_pure _)

theorem executeMovement (result : StrikeResult) (name : String)
    {movement : Task (MovementReport (Ref Change))} (inner : Within F movement) :
    Within F (result.executeMovement name movement) := by
  refine within_bind inner fun report => ?_
  cases result.ledger with
  | some ledger =>
    exact within_bind (hosts.trackEach ledger _) fun _ =>
      within_bind (hosts.emit _ rfl) fun _ => within_pure _
  | none => exact within_bind (hosts.emit _ rfl) fun _ => within_pure _

theorem executeInvasiveMovement (result : StrikeResult) (name : String)
    {movement : Task (MovementReport (Ref Change))} (inner : Within F movement) :
    Within F (result.executeInvasiveMovement name movement) :=
  within_ite (hosts.executeMovement result name inner)
    (within_bind (hosts.log _ _ _ _) fun _ => within_pure _)

end Footprint.Hosts

end Raid
