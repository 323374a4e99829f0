import Raid.Proofs.Change.Sweep
import Raid.Strike.Result

/-!
What following a strike through does. Its movements and its verdict stay; when it comes to its end
its changes are settled, and the alert says whether one of them is in bad state. So the result is
determined by the states that its changes are left in.
-/

namespace Raid.StrikeResult

open Act

@[simp] theorem movements_withDefaultMessage (result : StrikeResult) :
    result.withDefaultMessage.report.movements = result.report.movements := by
  unfold withDefaultMessage
  split <;> rfl

@[simp] theorem badStateAlert_withDefaultMessage (result : StrikeResult) :
    result.withDefaultMessage.report.badStateAlert = result.report.badStateAlert := by
  unfold withDefaultMessage
  split <;> rfl

@[simp] theorem passed_withDefaultMessage (result : StrikeResult) :
    result.withDefaultMessage.report.passed = result.report.passed := by
  unfold withDefaultMessage
  split <;> rfl

@[simp] theorem changes_withDefaultMessage (result : StrikeResult) :
    result.withDefaultMessage.report.changes = result.report.changes := by
  simp only [StrikeReport.changes, movements_withDefaultMessage]

theorem message_withDefaultMessage (result : StrikeResult) :
    result.withDefaultMessage.report.message.isEmpty = false := by
  unfold withDefaultMessage
  split
  · change notImplementedMessage.isEmpty = false
    decide +kernel
  · rename_i filled
    simpa using filled

theorem withDefaultMessage_of_message {result : StrikeResult}
    (filled : result.report.message.isEmpty = false) : result.withDefaultMessage = result := by
  simp [withDefaultMessage, filled]

@[simp] theorem changes_alerted (result : StrikeResult) :
    result.alerted.report.changes = result.report.changes := rfl

theorem message_alerted (result : StrikeResult) :
    result.alerted.report.message.isEmpty = false := by
  change badStateMessage.isEmpty = false
  decide +kernel

/-- The result with the alert that the states of its changes call for. -/
def judged (world : World) (result : StrikeResult) : StrikeResult :=
  if ∃ ref ∈ result.report.changes, (world.change ref).badState = true then result.alerted
  else result

section

variable (world : World) (result : StrikeResult)

@[simp] theorem movements_judged :
    (result.judged world).report.movements = result.report.movements := by
  unfold judged
  split <;> rfl

@[simp] theorem passed_judged : (result.judged world).report.passed = result.report.passed := by
  unfold judged
  split <;> rfl

@[simp] theorem changes_judged : (result.judged world).report.changes = result.report.changes := by
  unfold judged
  split <;> rfl

theorem message_judged (filled : result.report.message.isEmpty = false) :
    (result.judged world).report.message.isEmpty = false := by
  unfold judged
  split
  · exact message_alerted result
  · exact filled

theorem badStateAlert_judged :
    (result.judged world).report.badStateAlert = true ↔ result.report.badStateAlert = true ∨
      ∃ ref ∈ result.report.changes, (world.change ref).badState = true := by
  unfold judged
  split
  · rename_i bad
    simp [alerted, withReport, bad]
  · rename_i fine
    simp [fine]

@[simp] theorem judged_judged : (result.judged world).judged world = result.judged world := by
  by_cases bad : ∃ ref ∈ result.report.changes, (world.change ref).badState = true
  · simp only [judged, bad, ↓reduceIte, changes_alerted]
    rfl
  · simp only [judged, bad, ↓reduceIte]

end

/-- Changes that agree on what is bad call for the same alert. -/
theorem judged_congr {first second : World} {result : StrikeResult}
    (same : ∀ ref ∈ result.report.changes,
      ((first.change ref).badState = true ↔ (second.change ref).badState = true)) :
    result.judged first = result.judged second := by
  have bad : (∃ ref ∈ result.report.changes, (first.change ref).badState = true) ↔
      ∃ ref ∈ result.report.changes, (second.change ref).badState = true :=
    exists_congr fun ref => and_congr_right (same ref)
  simp only [judged, bad]

theorem within_followThrough (result : StrikeResult) :
    Within .undoing result.followThrough :=
  within_bind (Change.within_revertEach _ _ _) fun _ => within_pure _

theorem lasts_followThrough (result : StrikeResult) : Lasts result.followThrough :=
  lasts_bind (Change.lasts_revertEach _ _ _) fun _ => lasts_pure _

structure Followed (result kept : StrikeResult) (after : World) : Prop where
  same : kept = result.withDefaultMessage.judged after
  settled : ∀ ref ∈ result.report.changes, (after.change ref).Settled

namespace Followed

variable {result kept : StrikeResult} {before after : World}

theorem movements (followed : Followed result kept after) :
    kept.report.movements = result.report.movements := by simp [followed.same]

theorem passed (followed : Followed result kept after) :
    kept.report.passed = result.report.passed := by simp [followed.same]

theorem changes (followed : Followed result kept after) :
    kept.report.changes = result.report.changes := by simp [followed.same]

theorem message (followed : Followed result kept after) :
    kept.report.message.isEmpty = false := by
  rw [followed.same]
  exact message_judged after _ (message_withDefaultMessage result)

theorem alert (followed : Followed result kept after) :
    kept.report.badStateAlert = true ↔ result.report.badStateAlert = true ∨
      ∃ ref ∈ result.report.changes, (after.change ref).badState = true := by
  simp [followed.same, badStateAlert_judged]

/-- Bad state among its changes is all that a result says then. -/
theorem message_bad (followed : Followed result kept after)
    (bad : ∃ ref ∈ result.report.changes, (after.change ref).badState = true) :
    kept.report.message = badStateMessage := by
  rw [← changes_withDefaultMessage] at bad
  rw [followed.same, judged, if_pos bad]
  rfl

/-- A result that was followed through stays so while changes are reverted. -/
theorem of_undone (followed : Followed result kept before)
    (undone : World.Undone before after) : Followed result kept after := by
  refine ⟨?_, fun ref member => undone.settled_after (followed.settled ref member)⟩
  rw [followed.same]
  refine judged_congr fun ref member => ?_
  rw [changes_withDefaultMessage] at member
  exact (undone.bad_iff (followed.settled ref member)).symm

/-- Following through twice is following through. -/
theorem again {second third : StrikeResult} (first : Followed result second before)
    (undone : World.Undone before after) (next : Followed second third after) :
    Followed result third after := by
  have begun := first.of_undone undone
  refine ⟨?_, begun.settled⟩
  rw [next.same, withDefaultMessage_of_message first.message, begun.same, judged_judged]

end Followed

theorem followThrough_done {result kept : StrikeResult} {world after : World}
    (run : result.followThrough world = (.done kept, after)) : Followed result kept after := by
  obtain ⟨failures, middle, reverted, run⟩ := bind_eq_done run
  obtain ⟨settled, failed⟩ := Change.revertEach_done reverted
  have judged : (if failures.isEmpty then result.withDefaultMessage
      else result.withDefaultMessage.alerted) = result.withDefaultMessage.judged middle := by
    simp only [judged, ← failed]
    cases failures.isEmpty <;> rfl
  rw [judged] at run
  cases run
  exact ⟨rfl, by simpa using settled⟩

theorem followThrough_swept {result kept : StrikeResult} {world after : World}
    (run : result.followThrough world = (.done kept, after)) :
    ∃ pass, Change.Swept world pass after ∧ Change.refsOf pass = result.report.changes := by
  obtain ⟨failures, middle, reverted, run⟩ := bind_eq_done run
  cases run
  obtain ⟨pass, swept, same, -⟩ := Change.revertEach_swept reverted
  exact ⟨pass, swept, same.trans (changes_withDefaultMessage result)⟩

theorem followThrough_panicked {result : StrikeResult} {world after : World} {payload : Payload}
    (run : result.followThrough world = (.panicked payload, after)) :
    (∃ ref ∈ result.report.changes, ¬(after.change ref).Settled) ∧
      ¬∀ ref ∈ result.report.changes, (world.change ref).RevertReturns := by
  rcases bind_eq_panicked run with reverted | ⟨failures, middle, -, run⟩
  · rw [← changes_withDefaultMessage]
    exact Change.revertEach_panicked reverted
  · cases run

/-- Following a result through whose changes are settled does nothing but write in the log. -/
theorem followThrough_settled {result : StrikeResult} {world : World}
    (settled : ∀ ref ∈ result.report.changes, (world.change ref).Settled) :
    ∃ kept journal, result.followThrough world = (.done kept, { world with journal := journal }) := by
  rw [← changes_withDefaultMessage] at settled
  obtain ⟨failures, journal, run⟩ :=
    Change.revertEach_settled .strike "failed to revert change" settled
  exact ⟨_, journal, by simp only [followThrough, settle, revertChanges, bind_apply, run]; rfl⟩

/-- Where no revert function of its changes panics, following a result through comes to its end. -/
theorem followThrough_returns {result : StrikeResult} {world : World}
    (returns : ∀ ref ∈ result.report.changes, (world.change ref).RevertReturns) :
    ∃ kept after, result.followThrough world = (.done kept, after) := by
  cases run : result.followThrough world with
  | mk outcome after =>
    cases outcome with
    | done kept => exact ⟨kept, after, rfl⟩
    | panicked payload => exact absurd returns (followThrough_panicked run).2
    | ended ending => exact absurd run result.lasts_followThrough.not_ended

/-- A result that following through leaves as it is: it has a message, its changes are settled, and
it has the alert that they call for. -/
structure Finished (result : StrikeResult) (world : World) : Prop where
  filled : result.report.message.isEmpty = false
  settled : ∀ ref ∈ result.report.changes, (world.change ref).Settled
  judged : result.judged world = result

theorem Followed.finished {result kept : StrikeResult} {after : World}
    (followed : Followed result kept after) : kept.Finished after where
  filled := followed.message
  settled ref member := followed.settled ref (followed.changes ▸ member)
  judged := by rw [followed.same, judged_judged]

namespace Finished

variable {result : StrikeResult} {world after : World}

theorem of_same (finished : result.Finished world)
    (same : ∀ ref ∈ result.report.changes, after.change ref = world.change ref) :
    result.Finished after where
  filled := finished.filled
  settled ref member := by
    rw [same ref member]
    exact finished.settled ref member
  judged := by
    have bad : ∀ ref ∈ result.report.changes,
        ((after.change ref).badState = true ↔ (world.change ref).badState = true) := by
      intro ref member
      rw [same ref member]
    rw [judged_congr bad, finished.judged]

theorem of_journal (finished : result.Finished world) (journal : List Event) :
    result.Finished { world with journal := journal } := finished.of_same fun _ _ => rfl

theorem notes_revertChanges (finished : result.Finished world) :
    result.revertChanges.Notes ((result.report.changes.filter fun ref =>
      (world.change ref).badState).map fun ref => (world.change ref).inertError) world :=
  Change.notes_revertEach .strike "failed to revert change" finished.settled

/-- Following a finished result through gives the same result, and does nothing to the world but
write in the log. -/
theorem notes_followThrough (finished : result.Finished world) :
    result.followThrough.Notes result world := by
  rw [followThrough, withDefaultMessage_of_message finished.filled]
  apply finished.notes_revertChanges.bind
  intro journal
  -- An error comes back just when one of the changes is in bad state, and then the alert is there.
  have answer : (if ((result.report.changes.filter fun ref => (world.change ref).badState).map
      fun ref => (world.change ref).inertError).isEmpty then result else result.alerted) = result := by
    have judged := finished.judged
    by_cases bad : ∃ ref ∈ result.report.changes, (world.change ref).badState = true
    · simp only [StrikeResult.judged, bad, ↓reduceIte] at judged
      rw [judged, ite_self]
    · rw [List.filter_eq_nil_iff.mpr fun ref member wrong => bad ⟨ref, member, wrong⟩]
      rfl
  rw [answer]
  exact Task.notes_pure result _

end Finished

def followTimes (result : StrikeResult) : Nat → Task StrikeResult
  | 0 => pure result
  | times + 1 => do
    let kept ← result.followThrough
    kept.followTimes times

theorem Finished.notes_followTimes {result : StrikeResult} {world : World}
    (finished : result.Finished world) (times : Nat) :
    (result.followTimes times).Notes result world := by
  induction times generalizing world with
  | zero => exact Task.notes_pure result world
  | succ times ih =>
    apply finished.notes_followThrough.bind
    intro journal
    exact ih (finished.of_journal journal)

/-- Following the result through any further number of times gives the same result and does nothing to
the world but write in the log; no pass over its changes calls a function of one. -/
structure Still (result : StrikeResult) (world : World) : Prop where
  again : ∀ times, (result.followTimes times).Notes result world
  uncalled : ∀ times middle, result.followTimes times world = (.done result, middle) →
    ∀ pass after, Change.Swept middle pass after → Change.refsOf pass = result.report.changes →
      ∀ ref, Change.callsIn ref pass = []

theorem Finished.still {result : StrikeResult} {world : World} (finished : result.Finished world) :
    result.Still world where
  again := finished.notes_followTimes
  uncalled := by
    intro times middle run pass after swept refs ref
    obtain ⟨events, -, noted⟩ := finished.notes_followTimes times
    rw [run] at noted
    cases noted
    by_cases member : ref ∈ Change.refsOf pass
    · rw [refs] at member
      exact (swept.of_settled (finished.settled ref member)).2
    · exact (swept.of_not_mem member).2

end Raid.StrikeResult
