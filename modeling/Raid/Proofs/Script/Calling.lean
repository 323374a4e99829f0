import Raid.Proofs.Change.Course
import Raid.Proofs.Script.Run

/-!
Whatever a body does is a course of the world: the changes that it makes are not due, and nothing
happens to a change but that it is applied and reverted.
-/

namespace Raid

open Act

def Footprint.calling : Footprint World where
  allows before after := ∃ calls, Change.Course before calls after
  refl _ := ⟨[], .aside rfl rfl⟩
  trans := fun ⟨_, begun⟩ ⟨_, ended⟩ => ⟨_, begun.trans ended⟩

theorem Ledger.within_track_calling (ledger : Ref Ledger) (change : Ref Change) :
    Within .calling (track ledger change) := by
  have logged (event : Event) (quiet : event.isCall = false) :
      Within .calling (Task.emit event) := fun world => ⟨[], .noted world quiet⟩
  refine within_bind within_read fun world => within_ite (within_pure ()) ?_
  exact within_bind (logged _ rfl) fun _ => within_change fun world => ⟨[], .aside rfl rfl⟩

theorem Footprint.calling_hosts :
    Footprint.calling.Hosts { makes := fun change => change.due = false } where
  emit _ quiet := fun world => ⟨[], .noted world quiet⟩
  newChange _ idle := fun world => ⟨[], .made world idle⟩
  apply ref targetName input := fun world => ⟨_, .asked world ref (.apply targetName input)⟩
  revert ref := fun world => ⟨_, .asked world ref .revert⟩
  newLedger := fun _ => ⟨[], .aside rfl rfl⟩
  track := Ledger.within_track_calling
  newExecuted _ := fun _ => ⟨[], .aside rfl rfl⟩
  recordExecuted _ _ _ := fun _ => ⟨[], .aside rfl rfl⟩
  newSlot := fun _ => ⟨[], .aside rfl rfl⟩
  setSlot _ _ _ := fun _ => ⟨[], .aside rfl rfl⟩
  onBench _ := fun _ => ⟨[], .aside rfl rfl⟩
  files _ _ _ := ⟨[], .aside rfl rfl⟩
  freshIdentifier := fun _ => ⟨[], .aside rfl rfl⟩

/-- A change that an action makes is not due: it is new, or it is read from a record and cannot be
reverted. -/
theorem Action.idle_of_makes {action : Action} {change : Change}
    (makes : action.makes? = some change) : change.due = false := by
  cases action with
  | change id name description applier reverter =>
    cases makes
    simp [Change.due, Change.live]
  | changeLoad id record =>
    obtain ⟨found, -, rfl⟩ := Option.map_eq_some_iff.mp makes
    simp [Change.due, ChangeRecord.toChange]
  | _ => cases makes

theorem StrikeBody.Makes.idle {body : StrikeBody} {change : Change} (makes : body.Makes change) :
    change.due = false := by
  cases body with
  | scripted script =>
    obtain ⟨action, -, makes⟩ := makes
    exact Action.idle_of_makes makes
  | directory check => rcases makes with ⟨name, content, rfl⟩ | rfl <;> rfl

/-- Every body keeps to what the courses of the world permit. -/
theorem StrikeBody.permitted_calling (body : StrikeBody) :
    body.Permitted { makes := fun change => change.due = false } :=
  ⟨fun _ makes => makes.idle, fun _ => trivial, fun _ => trivial⟩

end Raid
