import Raid.Proofs.Results.Decoding
import Raid.Proofs.Tactic.Tally
import Raid.Proofs.Tactic.Within

/-!
What is written down of a tactic that was executed can be read: no more strikes are counted than the
tactic has, and the two times are readings of the clock.
-/

namespace Raid.Execution

open Act

variable {state after : Execution} {result : Except TacticError Unit}

theorem Executed.startTime (executed : Executed state (.done result) after) :
    after.tactic.startTime = some state.world.now := by
  rw [← (Footprint.staying_carries.entered state).now]
  cases executed with
  | @returned looped cleaned event loop swept =>
    change cleaned.tactic.startTime = _
    rw [((within_cleanUp state.ownLedger).of_run swept).tactic]
    simp only [restored]
    rw [loop.tactic]
    rfl

theorem Executed.endTime (executed : Executed state (.done result) after) :
    after.tactic.endTime = some after.world.now := by
  cases executed with
  | returned event loop swept => rfl

/-- The record of a tactic that was executed is readable when its strikes can be counted and the
clock shows a time that can be read. -/
theorem execute_readable (named : state.tactic.name ≠ "") (uncounted : state.tactic.Uncounted)
    (returned : (execute state).1 = .done result)
    (few : state.tactic.strikes.length < Nat.pow 2 32)
    (clock : Moment.parse state.world.now.text = some state.world.now) (world : World) :
    ((execute state).2.tactic.record world).Readable := by
  have filled : state.tactic.name.isEmpty = false := by simpa using named
  have ran : Executed state (.done result) (execute state).2 :=
    executed filled uncounted.status (Prod.ext returned rfl)
  obtain ⟨counts, attempts⟩ := ran.attempts_le uncounted
  have now : (execute state).2.world.now = state.world.now := state.execute_stays.now
  refine ⟨?_, ?_, ?_, ?_, ?_⟩
  · exact Nat.lt_of_le_of_lt attempts few
  · change (execute state).2.tactic.successes < Nat.pow 2 32
    omega
  · change (execute state).2.tactic.failures < Nat.pow 2 32
    omega
  · intro moment begins
    obtain rfl : state.world.now = moment := Option.some.inj (ran.startTime.symm.trans begins)
    exact clock
  · intro moment ends
    obtain rfl : (execute state).2.world.now = moment :=
      Option.some.inj (ran.endTime.symm.trans ends)
    rw [now]
    exact clock

end Raid.Execution
