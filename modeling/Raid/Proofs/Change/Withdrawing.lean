import Raid.Proofs.Change.Course
import Raid.Proofs.Matching

/-!
Courses on which changes are withdrawn at most. No apply function is called on them, and a revert
function only of a change that was due when the course began: where nothing is made, nothing more
becomes due. And the journal has no say in a revert.
-/

namespace Raid

open Act

namespace Change

def Heard.Withdraws (world : World) (heard : Heard) : Prop :=
  heard.call.isApply = false ∧ (world.change heard.ref).due = true

/-- Where no apply function is called nothing becomes due. -/
theorem Course.due_of_due {before after : World} {calls : List Heard}
    (course : Course before calls after) (unmade : ∀ heard ∈ calls, heard.call.isApply = false)
    {ref : Ref Change} (due : (after.change ref).due = true) : (before.change ref).due = true := by
  have never : timesMade ref calls = 0 :=
    List.countP_eq_zero.mpr fun heard member => by simp [unmade heard member]
  have balance := course.balance ref
  rw [never, due] at balance
  cases owed : (before.change ref).due with
  | true => rfl
  | false => simp [owed] at balance

theorem withdraws_revert (ref : Ref Change) (world : World) :
    ∀ heard ∈ (Operation.revert.heard? ref world).toList, heard.Withdraws world := by
  intro heard member
  obtain ⟨call, called, rfl⟩ := Option.map_eq_some_iff.mp (Option.mem_toList.mp member)
  simp only [Operation.call?] at called
  split at called
  · cases called
  · rename_i pending
    obtain ⟨fine, live⟩ := not_settled_iff.mp pending
    obtain ⟨function, own, rfl⟩ := Option.map_eq_some_iff.mp called
    exact ⟨rfl, by simp [due, fine, live, own]⟩

end Change

/-- There is a course from the one world to the other that withdraws at most. -/
def Footprint.withdrawing : Footprint World where
  allows before after := ∃ calls, Change.Course before calls after ∧
    ∀ heard ∈ calls, heard.Withdraws before
  refl _ := ⟨[], .aside rfl rfl, fun _ member => nomatch member⟩
  trans := by
    rintro first second third ⟨calls, begun, withdraws⟩ ⟨later, ended, withdraws'⟩
    refine ⟨_, begun.trans ended, fun heard member => ?_⟩
    rcases List.mem_append.mp member with member | member
    · exact withdraws heard member
    · obtain ⟨undoes, due⟩ := withdraws' heard member
      exact ⟨undoes, begun.due_of_due (fun heard member => (withdraws heard member).1) due⟩

namespace Footprint

theorem withdrawing_aside {before after : World} (changes : after.changes = before.changes)
    (journal : after.journal = before.journal) : withdrawing.allows before after :=
  ⟨[], .aside changes journal, fun _ member => nomatch member⟩

theorem withdrawing_emit {event : Event} (quiet : event.isCall = false) :
    Within withdrawing (Task.emit event) :=
  fun world => ⟨[], .noted world quiet, fun _ member => nomatch member⟩

theorem withdrawing_notes {events : List Event} (quiet : ∀ event ∈ events, event.isCall = false)
    (world : World) :
    withdrawing.allows world { world with journal := world.journal ++ events } := by
  induction events generalizing world with
  | nil =>
    rw [List.append_nil]
    exact withdrawing.refl world
  | cons event rest ih =>
    obtain ⟨own, quiet⟩ := List.forall_mem_cons.mp quiet
    have later := ih quiet { world with journal := world.journal ++ [event] }
    rw [List.append_assoc] at later
    exact withdrawing.trans (withdrawing_emit own world) later

theorem withdrawing_newChange {change : Change} (idle : change.due = false) :
    Within withdrawing (Task.newChange change) :=
  fun world => ⟨[], .made world idle, fun _ member => nomatch member⟩

theorem withdrawing_revert (ref : Ref Change) : Within withdrawing (Change.revert ref) :=
  fun world => ⟨_, .asked world ref .revert, Change.withdraws_revert ref world⟩

end Footprint

def World.Unheard (first second : World) : Prop :=
  ∃ journal, second = { first with journal := journal }

namespace Change

open World

theorem respects_setChange (ref : Ref Change) (change : Change) :
    Respects Unheard (Task.setChange ref change) := by
  rintro first _ ⟨journal, rfl⟩
  exact ⟨rfl, journal, rfl⟩

theorem respects_removeFileOf (target : Json) : Respects Unheard (removeFileOf target) := by
  rintro first _ ⟨journal, rfl⟩
  simp only [removeFileOf]
  cases (target.member? "path").bind Json.text? with
  | none => exact ⟨rfl, journal, rfl⟩
  | some path =>
    dsimp only
    cases first.files.removeFile path with
    | error cause => exact ⟨rfl, journal, rfl⟩
    | ok files => exact ⟨rfl, journal, rfl⟩

theorem respects_restorePermissionsOf (noted : Option Permissions) (target : Json) :
    Respects Unheard (restorePermissionsOf noted target) := by
  rintro first _ ⟨journal, rfl⟩
  simp only [restorePermissionsOf]
  cases (target.member? "path").bind Json.text? with
  | none => exact ⟨rfl, journal, rfl⟩
  | some path =>
    cases noted with
    | none => exact ⟨rfl, journal, rfl⟩
    | some before =>
      dsimp only
      cases first.files.setPermissions path before with
      | error cause => exact ⟨rfl, journal, rfl⟩
      | ok files => exact ⟨rfl, journal, rfl⟩

theorem respects_unheard {α : Type} {next : World → Task α}
    (deaf : ∀ world journal, next { world with journal := journal } = next world)
    (rest : ∀ world, Respects Unheard (next world)) : Respects Unheard (Act.read >>= next) := by
  refine respects_read ?_ rest
  rintro first _ ⟨journal, rfl⟩
  exact (deaf first journal).symm

theorem respects_callRevert (ref : Ref Change) (target : Json) (function : RevertFunction) :
    Respects Unheard (callRevert ref target function) := by
  cases function with
  | scripted replies =>
    rintro first _ ⟨journal, rfl⟩
    rw [callRevert_scripted, callRevert_scripted]
    exact ⟨rfl, _, rfl⟩
  | removeFile => exact respects_removeFileOf target
  | restorePermissions noted =>
    exact respects_unheard (fun _ _ => rfl) fun _ => respects_bind (respects_setChange ref _)
      fun _ => respects_restorePermissionsOf noted target

/-- A revert comes out the same whatever the journal holds. -/
theorem respects_revert (ref : Ref Change) : Respects Unheard (revert ref) := by
  refine respects_unheard (fun _ _ => rfl) fun world =>
    respects_ite (respects_pure _) (respects_ite (respects_pure _) ?_)
  cases (world.change ref).reverter with
  | none => exact respects_bind (respects_setChange ref _) fun _ => respects_pure _
  | some function =>
    refine respects_bind (respects_callRevert ref _ function) fun answer =>
      respects_unheard (fun _ _ => rfl) fun world => ?_
    cases answer with
    | ok value => exact respects_bind (respects_setChange ref _) fun _ => respects_pure _
    | error reason => exact respects_bind (respects_setChange ref _) fun _ => respects_pure _

end Change

end Raid
