import Raid.Proofs.Tactic.Aftermath

/-!
What an execution leaves behind when a panic escapes it. The panics of bodies are caught, but the
revert functions that are called after a body, when a strike is followed through, when a panic is
recovered from and at the end, are called with nothing to catch theirs. Such a panic cuts the
execution short.
-/

namespace Raid.Execution

open Act

/-- The execution has come to an orderly end: a pass over the whole ledger was made, after which
every change of the ledger is settled; the status is final, and the strikes are those that were
declared. -/
structure LeftClean (before after : Execution) : Prop where
  swept : ∃ world failures world',
    Ledger.revertAll before.ownLedger world = (.done failures, world') ∧
      (∀ ref, after.world.change ref = world'.change ref) ∧
      after.world.ledger before.ownLedger = world'.ledger before.ownLedger
  settled : ∀ ref ∈ (after.world.ledger before.ownLedger).changes,
    (after.world.change ref).Settled
  status : after.tactic.status = .completed ∨ after.tactic.status = .haltedBadState
  strikes : after.tactic.strikes = before.tactic.strikes

theorem not_leftClean_of_running {before after : Execution}
    (running : after.tactic.status = .running) : ¬LeftClean before after := by
  intro clean
  rcases clean.status with completed | halted
  · simp [running] at completed
  · simp [running] at halted

theorem Executed.leftClean {state after : Execution} {result : Except TacticError Unit}
    (executed : Executed state (.done result) after) : LeftClean state after := by
  have settled := executed.settled
  cases executed with
  | @returned looped cleaned event loop swept =>
    obtain ⟨world, failures, reverted⟩ := (cleanUp_done swept).swept
    refine ⟨⟨world, failures, cleaned.world, reverted, by simp, by simp⟩, ?_, ?_, ?_⟩
    · exact fun ref member => settled ref (mem_accounted.mpr (.inl member))
    · change (finished _ cleaned.tactic).status = _ ∨ (finished _ cleaned.tactic).status = _
      simp only [finished]
      cases cleaned.tactic.badStateAlert <;> simp
    · have settling := (within_cleanUp state.ownLedger).of_run swept
      change cleaned.tactic.strikes = _
      rw [settling.tactic]
      rfl

theorem Executed.running {state after : Execution} {payload : Payload}
    (executed : Executed state (.panicked payload) after) : after.tactic.status = .running := by
  cases executed with
  | interrupted loop =>
    rw [tactic_withWatch, loop.tactic]
    rfl
  | @unswept looped _ _ loop swept =>
    rw [tactic_withWatch, ((within_cleanUp state.ownLedger).of_run swept).tactic]
    change looped.tactic.status = _
    rw [loop.tactic]
    rfl

/-- A panic that escapes the loop left a change live. -/
theorem Looped.pending {before : List String} {context : StrikeContext} {strikes : List Strike}
    {state after : Execution} {begun : List Start} {payload : Payload}
    (loop : Looped before context strikes state begun (.panicked payload) after) :
    ∃ ref, ¬(after.world.change ref).Settled := by
  generalize same : Outcome.panicked payload = outcome at loop
  induction loop with
  | finished state => cases same
  | halted alert => cases same
  | skipped calm known going ih => exact ih same
  | ran calm fresh closed going ih => exact ih same
  | panicked calm fresh closed =>
    cases closing_cases closed with
    | stuck body undone pending loud =>
      obtain ⟨ref, -, pending⟩ := pending
      exact ⟨ref, pending⟩
    | lost body undone pending loud =>
      obtain ⟨ref, -, pending⟩ := pending
      exact ⟨ref, pending⟩
  | ended calm fresh closed => cases same

theorem Executed.pending {state after : Execution} {payload : Payload}
    (executed : Executed state (.panicked payload) after) :
    ∃ ref, ¬(after.world.change ref).Settled := by
  cases executed with
  | interrupted loop => simpa using loop.pending
  | unswept loop swept => simpa using (cleanUp_panicked swept).1

/-- Control leaves the execution of a tactic. All is clean when it returns. When a panic escapes it
nothing is: the tactic is left running and a change is left live; and a panic escapes only where
a revert function panics. -/
theorem execute_leftClean {state : Execution} (named : state.tactic.name.isEmpty = false)
    (fresh : state.tactic.status = .notStarted) :
    ((execute state).1.isDone = true → LeftClean state (execute state).2) ∧
    ∀ payload, (execute state).1 = .panicked payload →
      ¬LeftClean state (execute state).2 ∧ (execute state).2.tactic.status = .running ∧
        (∃ ref, ¬((execute state).2.world.change ref).Settled) ∧
        ¬(state.world.RevertsReturn ∧ ∀ strike ∈ state.tactic.strikes, strike.RevertsReturn) := by
  cases run : execute state with
  | mk outcome after =>
    have ran := executed named fresh run
    refine ⟨?_, ?_⟩
    · intro done
      obtain ⟨result, rfl⟩ := Outcome.isDone_iff.mp done
      exact ran.leftClean
    · rintro payload rfl
      have running := ran.running
      exact ⟨not_leftClean_of_running running, running, ran.pending,
        fun gentle => ran.revertsReturn gentle.1 gentle.2 payload rfl⟩

theorem execute_leftClean_abandoned : LeftClean abandoned (execute abandoned).2 :=
  (execute_leftClean (by decide +kernel) (by decide +kernel)).1 (by decide +kernel)

/-- A tactic whose one strike makes two changes and passes, about to be executed. The revert function
of the first change panics. -/
def interrupted : Execution :=
  let made (name : String) (reply : Reply) : Step :=
    .act (.change name name "d" (some (.scripted [.value .null])) (some (.scripted [reply])))
  let strike : Strike := ⟨"s1", .scripted { description := "first", steps := [
    made "c1" (.panic (.text "boom")), made "c2" (.value .null),
    .movement { id := none, name := "mv", body := [.apply "c1" "svc" .null, .apply "c2" "svc" .null]
                plan := { description := "d", verdict := .pass "fine"
                          changes := Dict.ofList [("c1", "c1"), ("c2", "c2")] } }] }⟩
  ⟨{}, { name := "t", strikes := [strike], context := { service := "svc", ledger := ⟨0⟩ }
         executed := ⟨0⟩ }⟩

/-- The panic leaves the tactic running and without its strikes, and the second change live: its
revert was never called. -/
theorem not_leftClean_interrupted :
    ¬LeftClean interrupted (execute interrupted).2 ∧
    (execute interrupted).2.tactic.status = .running ∧
    (execute interrupted).2.tactic.strikes.length = 0 ∧
    (∃ ref ∈ ((execute interrupted).2.world.ledger interrupted.ownLedger).changes,
      ((execute interrupted).2.world.change ref).name = "c2" ∧
        ¬((execute interrupted).2.world.change ref).Settled) ∧
    ∀ event ∈ (execute interrupted).2.world.journal,
      (match event with
        | .revertCalled name _ => name == "c2"
        | _ => false) = false := by
  have running : (execute interrupted).2.tactic.status = .running := by decide +kernel
  exact ⟨not_leftClean_of_running running, running, by decide +kernel, by decide +kernel,
    by decide +kernel⟩

end Raid.Execution
