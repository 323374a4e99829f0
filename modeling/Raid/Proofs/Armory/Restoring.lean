import Raid.Proofs.Armory.Probing
import Raid.Proofs.Tactic.Aftermath
import Raid.Proofs.Vessel.Report

/-!
Runs over the built-in armory leave the files as they were, but for the files of results and the
directories on the way to them. A strike brings the tree back when it is followed through, so that
neither the cleaning up nor a later strike finds anything left to revert.
-/

namespace Raid

open Act

/-- The files are as they were, what was settled is settled, and so is what was registered since. -/
structure World.Restored (own : Ref Ledger) (before after : World) : Prop where
  files : before.files.Same after.files
  settled : ∀ ref, (before.change ref).Settled → (after.change ref).Settled
  ledger : ∀ ref ∈ (after.ledger own).changes,
    ref ∈ (before.ledger own).changes ∨ (after.change ref).Settled

namespace World

variable {own : Ref Ledger} {first second : World}

theorem Restored.of_registered (registered : Registered (fun _ => False) first second) :
    Restored own first second where
  files := registered.files ▸ .refl _
  settled ref settled := by rwa [World.change, registered.changes]
  ledger ref member := .inl ((registered.ledger own ref member).resolve_right id)

end World

namespace DirectoryCheck

variable {vars : Dict String} {number : Nat} {first middle last : World} {files files' : FileTree}

theorem Unfiled.same (unfiled : Unfiled vars number files) (same : files.Same files') :
    Unfiled vars number files' := by
  intro directory var filled content bits
  rw [FileTree.home_congr (FileTree.workingDirectory_of_ground same.ground), same.entries]
  exact unfiled directory var filled content bits

theorem UnfiledBetween.same (unfiled : UnfiledBetween vars first last files)
    (same : files.Same files') : UnfiledBetween vars first last files' :=
  fun taken least below => (unfiled taken least below).same same

theorem UnfiledBetween.later (unfiled : UnfiledBetween vars first last files)
    (counts : World.Counts first middle) : UnfiledBetween vars middle last files := by
  intro taken least below
  rw [counts.seed]
  exact unfiled taken (Nat.le_trans counts.taken least) below

theorem UnfiledBetween.earlier (unfiled : UnfiledBetween vars first last files)
    (counts : World.Counts middle last) : UnfiledBetween vars first middle files :=
  fun taken least below => unfiled taken least (Nat.lt_of_lt_of_le below counts.taken)

end DirectoryCheck

namespace StrikeResult

variable {result : StrikeResult} {world middle : World}

/-- Following through the result of a probe brings the files back. -/
theorem followThrough_probed {ref : Ref Change} (probed : World.Probed ref world middle)
    (single : ∀ other, other ∈ result.report.changes ↔ other = ref) (own : Ref Ledger) :
    ∃ kept after, result.followThrough middle = (.done kept, after) ∧
      World.Restored own world after ∧ ∀ other ∈ kept.report.changes, (after.change other).Settled := by
  obtain ⟨failures, after, reverted, same⟩ := probed.reversible.revertEach .strike
    "failed to revert change" ((single ref).mpr rfl) fun other => (single other).mp
  have run : result.followThrough middle = (.done (if failures.isEmpty then
      result.withDefaultMessage else result.withDefaultMessage.alerted), after) := by
    simp only [followThrough, settle, revertChanges, changes_withDefaultMessage, bind_apply,
      reverted]
    rfl
  have undone := (within_followThrough result).of_run run
  have followed := followThrough_done run
  have reverted : (after.change ref).Settled := followed.settled ref ((single ref).mpr rfl)
  refine ⟨_, after, run, ⟨same, fun other settled => ?_, fun other member => ?_⟩, fun other member => ?_⟩
  · by_cases probe : other = ref
    · exact probe ▸ reverted
    · exact undone.settled_after (probed.others other probe ▸ settled)
  · rw [undone.ledger own] at member
    rcases probed.ledger own other member with earlier | probe
    · exact .inl earlier
    · exact .inr (probe ▸ reverted)
  · exact followed.settled other (followed.changes ▸ member)

/-- Following through a result without changes leaves everything as it is. -/
theorem followThrough_idle (none : result.report.changes = []) (world : World) :
    result.followThrough world = (.done result.withDefaultMessage, world) := by
  simp only [followThrough, settle, revertChanges, changes_withDefaultMessage, none, bind_apply]
  rfl

end StrikeResult

namespace Execution

open DirectoryCheck

variable {strike : Strike} {check : DirectoryCheck} {context : StrikeContext} {world after : World}
  {outcome : Outcome StrikeResult}

theorem closing_restored (body : strike.body = .directory check)
    (run : closing strike context world = (outcome, after))
    (unfiled : UnfiledBetween context.vars world after world.files) :
    ∃ result, outcome = .done result ∧ World.Restored context.ledger world after ∧
      ∀ ref ∈ result.report.changes, (after.change ref).Settled := by
  cases ran : check.run context world with
  | mk ended middle =>
    have runs : strike.run context world = (ended, middle) := by
      rw [Strike.run, body]
      exact ran
    have counts : World.Counts middle after :=
      Footprint.counting_carries.toConducts.closed runs run
    obtain ⟨result, rfl, came⟩ := check.run_ran ran (unfiled.earlier counts)
    simp only [closing, strikeResult, bind_apply, caught, runs] at run
    cases came with
    | looked calm none registered =>
      simp only [pure_apply, StrikeResult.followThrough_idle none] at run
      cases run
      exact ⟨_, rfl, .of_registered registered, by simp [none]⟩
    | probed single probed =>
      obtain ⟨kept, after', run', restored, settled⟩ :=
        StrikeResult.followThrough_probed probed single context.ledger
      cases run.symm.trans run'
      exact ⟨kept, rfl, restored, settled⟩

def Quiet (ledger : Ref Ledger) (state : Execution) : Prop :=
  ∀ ref ∈ accounted ledger state, (state.world.change ref).Settled

theorem Quiet.booked {state : Execution} {result : StrikeResult} {own : Ref Ledger}
    (quiet : Quiet own state) (restored : World.Restored own state.world world)
    (settled : ∀ ref ∈ result.report.changes, (world.change ref).Settled) (strike : Strike) :
    Quiet own (booked strike result { state.attempted with world }) := by
  intro ref member
  change (world.change ref).Settled
  rcases mem_accounted.mp member with registered | kept
  · rcases restored.ledger ref registered with earlier | settled
    · exact restored.settled ref (quiet ref (mem_accounted.mpr (.inl earlier)))
    · exact settled
  · obtain ⟨name, other, found, member⟩ := mem_keptChanges.mp kept
    simp only [Execution.booked, Dict.get?_insert] at found
    split at found
    · cases found
      exact settled ref member
    · exact restored.settled ref (quiet ref (mem_accounted.mpr
        (.inr (mem_keptChanges.mpr ⟨name, other, found, member⟩))))

/-- A loop over checks of directories comes to its end with the files as they were and with nothing
left to revert. -/
theorem Looped.restored {before : List String} {strikes : List Strike} {state after : Execution}
    {begun : List Start} {outcome : Outcome Unit}
    (loop : Looped before context strikes state begun outcome after)
    (bodies : ∀ strike ∈ strikes, ∃ check, strike.body = .directory check)
    (unfiled : UnfiledBetween context.vars state.world after.world state.world.files)
    (quiet : Quiet context.ledger state) :
    outcome = .done () ∧ state.world.files.Same after.world.files ∧ Quiet context.ledger after := by
  have hosts (strike : Strike) : Within .counting (strike.run context) :=
    strike.within_run Footprint.counting_hosts context (.any _)
  induction loop with
  | finished state => exact ⟨rfl, .refl _, quiet⟩
  | halted alert => exact ⟨rfl, .refl _, quiet⟩
  | skipped calm known going ih => exact ih (List.forall_mem_cons.mp bodies).2 unfiled quiet
  | @ran strike rest state after later outcome result world calm fresh closed going ih =>
    obtain ⟨⟨check, body⟩, bodies⟩ := List.forall_mem_cons.mp bodies
    have rest := Footprint.counting_carries.toConducts.looped going fun strike _ => hosts strike
    have later : World.Counts world after.world := ⟨rest.seed, rest.taken⟩
    have earlier : World.Counts state.world world := by
      rw [closing_eq] at closed
      exact (Footprint.counting_carries.toConducts.closingOf (hosts strike) _ _).of_run closed
    obtain ⟨_, same, restored, settled⟩ := closing_restored body closed (unfiled.earlier later)
    cases same
    obtain ⟨done, files, quiet⟩ := ih bodies
      ((unfiled.later earlier).same restored.files) (quiet.booked restored settled strike)
    exact ⟨done, restored.files.trans files, quiet⟩
  | @panicked strike rest state payload world calm fresh closed =>
    obtain ⟨⟨check, body⟩, -⟩ := List.forall_mem_cons.mp bodies
    obtain ⟨_, same, -⟩ := closing_restored body closed unfiled
    cases same
  | @ended strike rest state ending world calm fresh closed =>
    obtain ⟨⟨check, body⟩, -⟩ := List.forall_mem_cons.mp bodies
    obtain ⟨_, same, -⟩ := closing_restored body closed unfiled
    cases same

theorem quiet_entered {state : Execution} (new : state.tactic.New) :
    Quiet state.ownLedger state.entered := by
  intro ref member
  rcases mem_accounted.mp member with registered | kept
  · rw [state.entered_ledger] at registered
    cases registered
  · have none : state.entered.tactic.strikeResults = {} := new.results
    rw [none] at kept
    cases kept

/-- The execution of a new tactic whose strikes check a directory comes to an answer and leaves the files
as they were. -/
theorem execute_restored {state : Execution} (new : state.tactic.New)
    (bodies : ∀ strike ∈ state.tactic.strikes, ∃ check, strike.body = .directory check)
    (unfiled : UnfiledBetween state.tactic.context.vars state.world (execute state).2.world
      state.world.files) :
    (∃ answer, (execute state).1 = .done answer) ∧
      state.world.files.Same (execute state).2.world.files := by
  cases unnamed : state.tactic.name.isEmpty with
  | true =>
    rw [execute_unnamed unnamed]
    exact ⟨⟨_, rfl⟩, .refl _⟩
  | false =>
    cases run : execute state with
    | mk outcome after =>
      rw [run] at unfiled
      obtain ⟨slots, processSlot, journal, entered⟩ := state.entered_world
      have files : state.entered.world.files = state.world.files := by rw [entered]
      have conducts := Footprint.counting_carries.toConducts
      -- However the execution goes on after its loop, the numbers only go up.
      have loops {begun : List Start} {ended : Outcome Unit} {looped : Execution}
          (loop : Looped state.namesBefore state.ownContext state.tactic.strikes state.entered begun
            ended looped) (later : World.Counts looped.world after.world) :
          ended = .done () ∧ state.world.files.Same looped.world.files ∧
            Quiet state.ownLedger looped := by
        have unfiled : UnfiledBetween state.ownContext.vars state.entered.world looped.world
            state.entered.world.files := by
          rw [files]
          exact (unfiled.earlier later).later (Footprint.counting_carries.entered state)
        have restored := loop.restored bodies unfiled (quiet_entered new)
        rwa [files] at restored
      cases executed unnamed new.status run with
      | @returned looped cleaned event loop swept =>
        have cleaning : World.Counts (looped.restored state.tactic.strikes).world cleaned.world :=
          (conducts.cleanUp state.ownLedger).of_run swept
        have watching := Footprint.counting_carries.withWatch state.opened.1 none cleaned
        obtain ⟨-, same, quiet⟩ := loops loop
          ⟨watching.seed.trans cleaning.seed, Nat.le_trans cleaning.taken watching.taken⟩
        obtain ⟨cleaned', journal, swept', world⟩ :=
          @cleanUp_settled state.ownLedger (looped.restored state.tactic.strikes) quiet
        cases swept.symm.trans swept'
        refine ⟨⟨_, rfl⟩, ?_⟩
        obtain ⟨slots, watched⟩ := world_withWatch state.opened.1 none cleaned
        simp only [concluded, noted, watched, world]
        exact same
      | @interrupted looped payload loop =>
        obtain ⟨done, -⟩ := loops loop
          (Footprint.counting_carries.withWatch state.opened.1 none looped)
        cases done
      | @unswept looped cleaned payload loop swept =>
        have cleaning : World.Counts (looped.restored state.tactic.strikes).world cleaned.world :=
          (conducts.cleanUp state.ownLedger).of_run swept
        obtain ⟨-, -, quiet⟩ := loops loop (Footprint.counting.trans cleaning
          (Footprint.counting_carries.withWatch state.opened.1 none cleaned))
        obtain ⟨_, _, swept', -⟩ :=
          @cleanUp_settled state.ownLedger (looped.restored state.tactic.strikes) quiet
        cases swept.symm.trans swept'
      | ended loop =>
        obtain ⟨done, -⟩ := loops loop (Footprint.counting.refl _)
        cases done

/-- Where the var for the target is not set, or what it names is no directory, the strike comes to a result
without an alert, makes no change and leaves the files alone. -/
def IdleUntargeted (strike : Strike) : Prop :=
  ∀ (context : StrikeContext) (state : Execution),
    (∀ directory, context.vars.get? targetVar = some directory →
      state.world.files.isDirectory directory = false) →
    ∃ after result, runStrike strike context state = (.done (), after) ∧
      after.tactic.strikeResults.get? strike.name = some result ∧
      result.report.badStateAlert = false ∧ after.tactic.badStateAlert = false ∧
      after.world.files = state.world.files ∧ after.world.changes = state.world.changes

example (files : FileTree) : files.isDirectory "" = false := rfl

theorem idleUntargeted_directory (body : strike.body = .directory check) :
    IdleUntargeted strike := by
  intro context state missing
  obtain ⟨message, missing⟩ :
      ∃ message, existingTarget state.world.files context = .error message := by
    cases there : existingTarget state.world.files context with
    | error message => exact ⟨message, rfl⟩
    | ok directory =>
      obtain ⟨var, found⟩ := existingTarget_eq_ok.mp there
      simp [missing directory var] at found
  obtain ⟨result, middle, ran, calm, none, registered⟩ := run_looked missing check
  have closed : closing strike context state.world = (.done result.withDefaultMessage, middle) := by
    simp only [closing, strikeResult, Strike.run, body, bind_apply, caught, ran, pure_apply,
      StrikeResult.followThrough_idle none]
  rw [runStrike_eq, closed]
  refine ⟨_, result.withDefaultMessage, rfl, Dict.get?_insert_self _ _ _, ?_, ?_,
    registered.files, registered.changes⟩
  · simpa using calm
  · simpa [booked, counted] using calm

end Execution

end Raid
