import Raid.Proofs.Tactic.Interrupt
import Raid.Proofs.Tactic.Tally

/-!
A strike whose body panics. The panic is turned into a failed result, which is booked as any other
one; everything that is registered is reverted at once, whoever registered it. Then the loop goes on,
or halts when a registered change is in bad state, and until the next body starts or the loop ends
nothing happens but words in the log.
-/

namespace Raid

open Act

namespace World

def SettledIn (world : World) (ledger : Ref Ledger) : Prop :=
  ∀ ref ∈ (world.ledger ledger).changes, (world.change ref).Settled

def BadIn (world : World) (ledger : Ref Ledger) : Prop :=
  ∃ ref ∈ (world.ledger ledger).changes, (world.change ref).badState = true

instance (world : World) (ledger : Ref Ledger) : Decidable (world.SettledIn ledger) :=
  inferInstanceAs (Decidable (∀ ref ∈ _, _))

instance (world : World) (ledger : Ref Ledger) : Decidable (world.BadIn ledger) :=
  inferInstanceAs (Decidable (∃ ref ∈ _, _))

end World

theorem StrikeResult.followThrough_of_changes_nil {result : StrikeResult}
    (filled : result.report.message.isEmpty = false) (none : result.report.changes = [])
    (world : World) : result.followThrough world = (.done result, world) := by
  simp only [followThrough, withDefaultMessage_of_message filled, settle, revertChanges, none,
    Change.revertEach]
  rfl

namespace Execution

def failedResult (name : String) (payload : Payload) : StrikeResult :=
  let result := StrikeResult.standalone name
  result.withReport { result.report with message := "Strike panicked: " ++ panicMessage payload }

def recoveredResult (name : String) (payload : Payload) (ledger : Ref Ledger) (world : World) :
    StrikeResult :=
  if world.BadIn ledger then (failedResult name payload).alerted else failedResult name payload

section

variable (name : String) (payload : Payload) (ledger : Ref Ledger) (world : World)

theorem recoveredResult_movements :
    (recoveredResult name payload ledger world).report.movements = {} := by
  unfold recoveredResult
  split <;> rfl

theorem recoveredResult_passed :
    (recoveredResult name payload ledger world).report.passed = false := by
  unfold recoveredResult
  split <;> rfl

theorem recoveredResult_changes :
    (recoveredResult name payload ledger world).report.changes = [] := by
  rw [StrikeReport.changes, recoveredResult_movements]
  rfl

theorem recoveredResult_message :
    (recoveredResult name payload ledger world).report.message.isEmpty = false := by
  unfold recoveredResult
  split
  · exact StrikeResult.message_alerted _
  · change ("Strike panicked: " ++ panicMessage payload).isEmpty = false
    simp

theorem recoveredResult_alert :
    (recoveredResult name payload ledger world).report.badStateAlert = true ↔
      world.BadIn ledger := by
  unfold recoveredResult
  split
  · rename_i bad
    exact iff_of_true rfl bad
  · rename_i fine
    exact iff_of_false Bool.false_ne_true fine

end

/-- What a panic is made into, when the reverting after it comes to its end. -/
theorem panickedResult_eq {name : String} {payload : Payload} {ledger : Ref Ledger}
    {world after : World} {result : StrikeResult}
    (run : panickedResult name payload ledger world = (.done result, after)) :
    result = recoveredResult name payload ledger after := by
  obtain ⟨_, noted, -, run⟩ := bind_eq_done run
  obtain ⟨failures, swept, reverted, run⟩ := bind_eq_done run
  have failed : failures.isEmpty = false ↔ swept.BadIn ledger := (Ledger.revertAll_done reverted).2
  cases run
  simp only [recoveredResult, ← failed, failedResult]
  cases failures.isEmpty <;> rfl

/-- Where no revert function of a registered change panics, a panic is recovered from. -/
theorem panickedResult_returns {name : String} {payload : Payload} {ledger : Ref Ledger}
    {world : World}
    (returns : ∀ ref ∈ (world.ledger ledger).changes, (world.change ref).RevertReturns) :
    ∃ after, panickedResult name payload ledger world =
      (.done (recoveredResult name payload ledger after), after) := by
  have ends : ∃ result after, panickedResult name payload ledger world = (.done result, after) := by
    simp only [panickedResult, bind_apply, Task.emit, change_apply]
    generalize world.journal ++ _ = journal
    obtain ⟨failures, after, reverted⟩ :=
      @Ledger.revertAll_returns ledger { world with journal } returns
    rw [reverted]
    exact ⟨_, after, rfl⟩
  obtain ⟨result, after, run⟩ := ends
  exact ⟨after, by rw [run, panickedResult_eq run]⟩

/-- A strike whose body panics is closed with the registered changes settled. -/
theorem closing_of_panicked {strike : Strike} {context : StrikeContext} {world middle : World}
    {payload : Payload} (body : strike.run context world = (.panicked payload, middle))
    (returns : ∀ ref ∈ (middle.ledger context.ledger).changes,
      (middle.change ref).RevertReturns) :
    ∃ after, closing strike context world =
        (.done (recoveredResult strike.name payload context.ledger after), after) ∧
      World.Undone middle after ∧ after.SettledIn context.ledger := by
  obtain ⟨after, recover⟩ := @panickedResult_returns strike.name payload _ _ returns
  refine ⟨after, ?_, (within_panickedResult _ _ _).of_run recover, ?_⟩
  · simp only [closing, strikeResult, bind_apply, caught, body, recover]
    exact StrikeResult.followThrough_of_changes_nil (recoveredResult_message ..)
      (recoveredResult_changes ..) after
  · exact (panickedResult_done recover).settled

section

variable {before : List String} {context : StrikeContext} {strikes : List Strike}
  {state : Execution}

/-- The loop comes to its next body with nothing but words in the log. -/
theorem world_of_head?_starts {next : Start}
    (first : (starts before context strikes state).head? = some next) :
    ∃ journal, next.state.world = { state.world with journal := journal } := by
  induction strikes generalizing state with
  | nil => cases first
  | cons strike rest ih =>
    simp only [starts] at first
    split at first
    · cases first
    · split at first
      · obtain ⟨journal, same⟩ := ih first
        exact ⟨journal, same⟩
      · cases first
        exact ⟨_, rfl⟩

theorem runStrikes_of_starts_nil (none : starts before context strikes state = []) :
    ∃ journal, runStrikes before context strikes state =
      (.done (), { state with world := { state.world with journal := journal } }) := by
  induction strikes generalizing state with
  | nil => exact ⟨_, rfl⟩
  | cons strike rest ih =>
    simp only [starts] at none
    simp only [runStrikes, bind_apply, tactic?]
    split at none
    · rename_i alert
      rw [if_pos alert, log_eq]
      exact ⟨_, rfl⟩
    · rename_i calm
      rw [if_neg calm]
      split at none
      · rename_i known
        rw [if_pos known]
        exact ih none
      · cases none

end

structure Contained (ledger : Ref Ledger) (start : Start) (payload : Payload) (middle : World)
    (after : Execution) : Prop where
  tracked : after.world.ledger ledger = middle.ledger ledger
  settled : after.world.SettledIn ledger
  attempts : after.tactic.attempts = start.state.tactic.attempts + 1
  successes : after.tactic.successes = start.state.tactic.successes
  failures : after.tactic.failures = start.state.tactic.failures + 1
  names : after.world.executedNames start.state.tactic.executed =
    middle.executedNames start.state.tactic.executed ++ [start.strike.name]
  kept : ∃ result, after.tactic.strikeResults.get? start.strike.name = some result ∧
    result.report.passed = false ∧ result.report.movements = {} ∧
    (¬after.world.BadIn ledger →
      result.report.message = "Strike panicked: " ++ panicMessage payload ∧
        result.report.badStateAlert = false) ∧
    (after.world.BadIn ledger →
      result.report.message = badStateMessage ∧ result.report.badStateAlert = true)
  alert : after.tactic.badStateAlert = true ↔ after.world.BadIn ledger

/-- What comes after the start of this number whose strike was booked in this state: the loop goes on
with the strikes that are left just when no registered change is in bad state, and the next body, or
the end of the loop, finds the registered changes settled. -/
structure GoesOn (state : Execution) (i : Nat) (start : Start) (after : Execution) : Prop where
  calm : ¬after.world.BadIn state.ownLedger → state.started.drop (i + 1) =
    starts state.namesBefore state.ownContext start.rest after
  halted : after.world.BadIn state.ownLedger → state.started.drop (i + 1) = []
  further : i + 1 < state.started.length ↔
    ¬after.world.BadIn state.ownLedger ∧ ∃ strike ∈ start.rest, strike.name ∉ state.namesBefore
  next : ∀ next, state.started[i + 1]? = some next → next.state.world.SettledIn state.ownLedger
  last : state.started[i + 1]? = none → ∃ looped,
    runStrikes state.namesBefore state.ownContext state.tactic.strikes state.entered =
      (.done (), looped) ∧ looped.world.SettledIn state.ownLedger

/-- A strike whose body panicked is booked as failed with everything settled that is registered. -/
theorem runStrike_contained {start : Start} {payload : Payload} {middle : World}
    (body : start.run = (.panicked payload, middle))
    (returns : ∀ ref ∈ (middle.ledger start.context.ledger).changes,
      (middle.change ref).RevertReturns) :
    ∃ after, runStrike start.strike start.context start.state = (.done (), after) ∧
      Contained start.context.ledger start payload middle after := by
  obtain ⟨world, closed, undone, settled⟩ := closing_of_panicked body returns
  have failed := recoveredResult_passed start.strike.name payload start.context.ledger world
  have alert := recoveredResult_alert start.strike.name payload start.context.ledger world
  have executed := World.executed_of_surroundings undone.surroundings
  refine ⟨booked start.strike (recoveredResult start.strike.name payload start.context.ledger world)
    { start.state.attempted with world }, ?_, ?_⟩
  · rw [runStrike_eq, closed]
  refine
    { tracked := undone.ledger start.context.ledger
      settled := settled
      attempts := rfl
      successes := by simp [booked, counted, attempted, failed]
      failures := by simp [booked, counted, attempted, failed]
      names := ?_
      kept := ⟨_, Dict.get?_insert_self _ _ _, failed, recoveredResult_movements .., ?_, ?_⟩
      alert := alert }
  · simp [booked, recorded, attempted, noted, World.executedNames, executed]
  · intro fine
    have calm : ¬world.BadIn start.context.ledger := fine
    simp only [recoveredResult, if_neg calm]
    exact ⟨rfl, rfl⟩
  · intro bad
    have bad : world.BadIn start.context.ledger := bad
    simp only [recoveredResult, if_pos bad]
    exact ⟨rfl, rfl⟩

theorem goesOn {state after : Execution} {i : Nat} {start : Start}
    (begun : state.started[i]? = some start)
    (ran : runStrike start.strike start.context start.state = (.done (), after))
    (settled : after.world.SettledIn state.ownLedger)
    (alert : after.tactic.badStateAlert = true ↔ after.world.BadIn state.ownLedger) :
    GoesOn state i start after := by
  obtain ⟨context, drop⟩ := started_drop begun
  obtain ⟨-, -, member⟩ := started_eq (List.mem_of_getElem? begun)
  have left : state.started.drop (i + 1) =
      starts state.namesBefore state.ownContext start.rest after := by
    rw [drop, Start.following, ran, context]
  have none : state.started.drop (i + 1) = [] ↔
      after.world.BadIn state.ownLedger ∨ ∀ strike ∈ start.rest, strike.name ∈ state.namesBefore := by
    rw [left, starts_eq_nil_iff, alert]
  refine ⟨fun _ => left, fun bad => none.mpr (.inl bad), ?_, ?_, ?_⟩
  · rw [← Nat.not_le, ← List.drop_eq_nil_iff, none]
    simp
  · intro next found
    rw [← List.head?_drop, left] at found
    obtain ⟨journal, same⟩ := world_of_head?_starts found
    rw [same]
    exact settled
  · intro last
    rw [← List.head?_drop, left, List.head?_eq_none_iff] at last
    obtain ⟨journal, ended⟩ := runStrikes_of_starts_nil last
    refine ⟨{ after with world := { after.world with journal := journal } }, ?_, settled⟩
    rw [runStrikes_from member, bind_apply, ran, context]
    exact ended

/-- The body of a strike panics, anywhere in it and with anything registered by it or before it, and
the revert functions of what is registered then do not panic. The strike is booked as failed under its
name with everything settled that is registered; what comes next finds it so; and the loop goes on just
when none of it is in bad state. The counts have room for the strikes that are left if they had room
for all. -/
theorem started_contained {state : Execution} {i : Nat} {start : Start} {payload : Payload}
    {middle : World} (begun : state.started[i]? = some start)
    (body : start.run = (.panicked payload, middle))
    (returns : ∀ ref ∈ (middle.ledger state.ownLedger).changes,
      (middle.change ref).RevertReturns) :
    ∃ after, runStrike start.strike start.context start.state = (.done (), after) ∧
      Contained state.ownLedger start payload middle after ∧ GoesOn state i start after ∧
      (state.tactic.Fits state.tactic.strikes.length → after.tactic.Fits start.rest.length) := by
  have own : start.context.ledger = state.ownLedger := by rw [(started_drop begun).1]; rfl
  rw [← own] at returns
  obtain ⟨after, ran, contained⟩ := runStrike_contained body returns
  rw [own] at contained
  refine ⟨after, ran, contained, goesOn begun ran contained.settled contained.alert, fun fits => ?_⟩
  obtain ⟨-, -, member⟩ := started_eq (List.mem_of_getElem? begun)
  obtain ⟨attempts, successes, failures⟩ :=
    fits_of_starts member ⟨fits.attempts, fits.successes, fits.failures⟩
  have attempted := contained.attempts
  have passed := contained.successes
  have failed := contained.failures
  constructor <;> omega

def making (manager name : String) : List Step := [
  .act (.change name name "d" (some (.scripted [.value .null])) (some (.scripted [.value .null]))),
  .act (.managerOfContext manager "ctx"), .act (.allow manager), .act (.add manager name name),
  .act (.managerApply manager name "svc" .null)]

/-- A tactic about to be executed. Its first strike leaves a change behind that no movement refers to;
its second makes another one, comes through a movement and panics; a third is left. -/
def surviving : Execution :=
  let movement : Step := .movement
    { id := none, name := "mv", plan := { description := "d", verdict := .pass "fine" } }
  let panicking : Strike := ⟨"s2", .scripted
    { description := "second", steps := making "n" "e" ++ [movement, .act (.panic (.text "boom"))] }⟩
  ⟨{}, { name := "t", strikes := [passing "s1" "first" (making "m" "c"), panicking,
           passing "s3" "third" []]
         context := { service := "svc", ledger := ⟨0⟩ }, executed := ⟨0⟩ }⟩

/-- The change of the first strike is live when the second panics. It is settled when the third
begins, as is that of the second. -/
theorem started_contained_surviving :
    ∃ start middle after next, surviving.started[1]? = some start ∧
      start.run = (.panicked (.text "boom"), middle) ∧
      (middle.ledger surviving.ownLedger).changes.length = 2 ∧
      (∀ ref ∈ (middle.ledger surviving.ownLedger).changes, (middle.change ref).live = true) ∧
      runStrike start.strike start.context start.state = (.done (), after) ∧
      after.tactic.badStateAlert = false ∧ after.tactic.Fits 1 ∧
      surviving.started[2]? = some next ∧ next.state.world.SettledIn surviving.ownLedger := by
  have panics : ∀ start ∈ surviving.started[1]?,
      start.run.1.payload? = some (.text "boom") ∧
        (start.run.2.ledger surviving.ownLedger).changes.length = 2 ∧
        ∀ ref ∈ (start.run.2.ledger surviving.ownLedger).changes,
          (start.run.2.change ref).RevertReturns ∧ (start.run.2.change ref).live = true := by
    decide +kernel
  have third : 2 < surviving.started.length := by decide +kernel
  obtain ⟨start, begun⟩ : ∃ start, surviving.started[1]? = some start :=
    ⟨_, List.getElem?_eq_getElem (Nat.lt_of_succ_lt third)⟩
  obtain ⟨next, found⟩ : ∃ next, surviving.started[2]? = some next :=
    ⟨_, List.getElem?_eq_getElem third⟩
  obtain ⟨panicked, both, each⟩ := panics start begun
  have body : start.run = (.panicked (.text "boom"), start.run.2) :=
    Prod.ext (Outcome.payload?_eq_some.mp panicked) rfl
  obtain ⟨after, ran, contained, goes, fits⟩ :=
    started_contained begun body fun ref member => (each ref member).1
  have calm := (goes.further.mp third).1
  refine ⟨start, start.run.2, after, next, begun, body, both, fun ref member => (each ref member).2,
    ran, ?_, ?_, found, goes.next next found⟩
  · simpa using fun alert => calm (contained.alert.mp alert)
  · have left : start.rest.length = 1 := by
      have one : ∀ start ∈ surviving.started[1]?, start.rest.length = 1 := by decide +kernel
      exact one start begun
    rw [← left]
    exact fits ⟨by decide +kernel, by decide +kernel, by decide +kernel⟩

end Execution

end Raid
