import Raid.Proofs.Script.Run

/-!
Where no revert function panics. When the changes of a world are such, and the body of a strike makes
only such changes, then the changes of the world after the body are such too.
-/

namespace Raid

open Act

def Strike.RevertsReturn (strike : Strike) : Prop :=
  ∀ change, strike.body.Makes change → change.RevertReturns

namespace World

variable {before after : World}

theorem RevertsReturn.of_changes (returns : before.RevertsReturn)
    (same : after.changes = before.changes) : after.RevertsReturn := by
  intro ref
  rw [show after.change ref = before.change ref by simp only [change, same]]
  exact returns ref

theorem RevertsReturn.of_called {ref : Ref Change} (returns : before.RevertsReturn)
    (called : Called ref before after) : after.RevertsReturn :=
  called.forall_change returns (called.returns (returns ref))

theorem RevertsReturn.withChange (returns : before.RevertsReturn) {ref : Ref Change}
    {change : Change} (same : change.reverter = (before.change ref).reverter) :
    (before.withChange ref change).RevertsReturn :=
  forall_withChange returns fun function found => returns ref function (same ▸ found)

theorem RevertsReturn.newChange (returns : before.RevertsReturn) {change : Change}
    (gentle : change.RevertReturns) : (Task.newChange change before).2.RevertsReturn :=
  forall_newChange returns gentle

theorem RevertsReturn.apply (returns : before.RevertsReturn) (ref : Ref Change)
    (targetName : String) (input : Json) :
    (Change.apply ref targetName input before).2.RevertsReturn := by
  cases run : Change.apply ref targetName input before with
  | mk outcome after =>
    cases Change.apply_cases run with
    | inert bad => exact returns
    | lacking fine lacks => exact returns.withChange rfl
    | live fine whole live => exact returns
    | made fine whole idle own call =>
      exact (returns.of_called (Change.callApply_called_of_run call)).withChange rfl
    | failed fine whole idle own call =>
      exact (returns.of_called (Change.callApply_called_of_run call)).withChange rfl
    | panicked fine whole idle own call =>
      exact returns.of_called (Change.callApply_called_of_run call)

end World

/-- The bodies that make no change whose revert panics keep the world free of such changes. -/
theorem Footprint.keeping_revertsReturn :
    (Footprint.keeping World.RevertsReturn).Hosts { makes := Change.RevertReturns } where
  emit _ _ := fun _ => id
  newChange _ gentle := fun _ returns => returns.newChange gentle
  apply ref targetName input := fun _ returns => returns.apply ref targetName input
  revert ref := fun world returns => returns.of_undone (Change.within_revert ref world)
  newLedger := fun _ => id
  track ledger change := fun world returns => by
    refine returns.of_changes ?_
    simp only [Ledger.track, bind_apply, read_apply]
    split <;> rfl
  newExecuted _ := fun _ => id
  recordExecuted _ _ _ := fun _ => id
  newSlot := fun _ => id
  setSlot _ _ _ := fun _ => id
  onBench _ := fun _ => id
  files _ _ _ := id
  freshIdentifier := fun _ => id

theorem Strike.RevertsReturn.run {strike : Strike} (gentle : strike.RevertsReturn)
    (context : StrikeContext) {world after : World} {outcome : Outcome StrikeResult}
    (returns : world.RevertsReturn) (run : strike.run context world = (outcome, after)) :
    after.RevertsReturn :=
  (Strike.within_run Footprint.keeping_revertsReturn strike context
    ⟨gentle, fun _ => trivial, fun _ => trivial⟩).of_run run returns

end Raid
