import Mathlib.Data.List.Forall2
import Raid.Proofs.Tactic.Tally
import Raid.Proofs.Tactic.Within
import Raid.Proofs.Vessel.Run

/-!
What a run over several tactics reports. Every tactic that was asked for has one entry; the entries
after bad state are those of tactics that were not run, and the others tell what became of them. The
tactics of the vessel, the files that were written and the exit code tell the same.
-/

namespace Raid

def Leg.tactic? : Leg → Option Tactic
  | .ran begun => some begun.left.tactic
  | _ => none

def TacticSummary.counts (entry : TacticSummary) : String × Nat × Nat × Nat :=
  (entry.name, entry.attempts, entry.successes, entry.failures)

def Tactic.counts (tactic : Tactic) : String × Nat × Nat × Nat :=
  (tactic.name, tactic.attempts, tactic.successes, tactic.failures)

theorem Execution.name_left {vessel : Vessel} {context : StrikeContext} {name : String}
    {strikes : List Strike} {begun : Execution} (made : begun.tactic = vessel.tactic context name strikes)
    {answer : Except TacticError Unit} (executed : begun.answered = .done answer) :
    begun.left.tactic.name = name := by
  have kept : begun.left.tactic.name = begun.tactic.name :=
    execute_name (by rw [made]; rfl) executed
  rw [kept, made]
  rfl

inductive Entered (vessel : Vessel) (context : StrikeContext) : TacticSummary → Leg → Prop
  | skipped (name : String) : Entered vessel context (.notRun name) .skipped
  | unknown {name : String} (missing : vessel.armory.strikes? name = none) :
    Entered vessel context (.unknown name) .unknown
  | ran {name : String} {strikes : List Strike} {begun : Execution}
    {answer : Except TacticError Unit} {written : Except ResultsError String}
    (known : vessel.armory.strikes? name = some strikes)
    (tactic : begun.tactic = vessel.tactic context name strikes)
    (executed : begun.answered = .done answer)
    (wrote : (begun.posted vessel.settings).1 = .done written) :
    Entered vessel context (.ran name answer begun.left.tactic written) (.ran begun)

namespace Entered

variable {vessel : Vessel} {context : StrikeContext} {entry : TacticSummary} {leg : Leg}

theorem of_tactics {tactics : List Tactic}
    (entered : Entered { vessel with tactics := tactics } context entry leg) :
    Entered vessel context entry leg := by
  cases entered with
  | skipped name => exact .skipped name
  | unknown missing => exact .unknown missing
  | ran known tactic executed wrote => exact .ran known tactic executed wrote

theorem executed_iff (entered : Entered vessel context entry leg) :
    entry.executed = true ↔ leg.tactic?.isSome = true := by
  cases entered with
  | skipped name => simp [TacticSummary.executed, TacticSummary.notRun, Leg.tactic?]
  | unknown missing => simp [TacticSummary.executed, TacticSummary.unknown, Leg.tactic?]
  | ran known tactic executed wrote => simp [Leg.tactic?]

theorem counts (entered : Entered vessel context entry leg) {tactic : Tactic}
    (ran : leg.tactic? = some tactic) : entry.counts = tactic.counts := by
  cases entered with
  | skipped name => cases ran
  | unknown missing => cases ran
  | @ran _ _ begun _ _ known made executed wrote =>
    cases ran
    simp only [TacticSummary.counts, Tactic.counts, TacticSummary.ran,
      Execution.name_left made executed]

/-- An entry is about an unknown tactic just when the armory does not have the tactic, unless it was
not run. -/
theorem unknown_iff (entered : Entered vessel context entry leg)
    (run : entry.outcome ≠ .notRun) :
    entry.outcome = .unknown ↔ vessel.armory.strikes? entry.name = none := by
  cases entered with
  | skipped name => exact absurd rfl run
  | unknown missing => exact ⟨fun _ => missing, fun _ => rfl⟩
  | @ran name _ begun answer written known tactic executed wrote =>
    refine ⟨fun unknown => absurd unknown (Voyage.verdict_executed answer).2, fun missing => ?_⟩
    have missing : vessel.armory.strikes? name = none := missing
    simp [known] at missing

end Entered

def Armory.RevertsReturn (armory : Armory) : Prop :=
  ∀ name strikes, armory.strikes? name = some strikes → ∀ strike ∈ strikes, strike.RevertsReturn

namespace Voyage

open Act

namespace Sailed

variable {context : StrikeContext} {halted : Bool} {asked : List String} {state after : Voyage}
  {entries : List TacticSummary} {legs : List Leg}

theorem names (course : Sailed context halted asked state entries legs after) :
    entries.map TacticSummary.name = asked := by
  induction course with
  | arrived halted state => rfl
  | skipped event going ih => rw [List.map_cons, ih, TacticSummary.notRun]
  | unknown event missing going ih => rw [List.map_cons, ih, TacticSummary.unknown]
  | ran event known executed wrote going ih => rw [List.map_cons, ih, TacticSummary.ran]

theorem vessel (course : Sailed context halted asked state entries legs after) :
    after.vessel = { state.vessel with
      tactics := state.vessel.tactics ++ legs.filterMap Leg.tactic? } := by
  induction course with
  | arrived halted state => simp
  | skipped event going ih => exact ih
  | unknown event missing going ih => exact ih
  | ran event known executed wrote going ih =>
    rw [ih]
    simp [docked, noted, Leg.tactic?]

theorem entered (course : Sailed context halted asked state entries legs after) :
    List.Forall₂ (Entered state.vessel context) entries legs := by
  induction course with
  | arrived halted state => exact .nil
  | skipped event going ih => exact .cons (.skipped _) ih
  | unknown event missing going ih => exact .cons (.unknown missing) ih
  | ran event known executed wrote going ih =>
    exact .cons (.ran known rfl executed wrote) (ih.imp fun _ _ => Entered.of_tactics)

/-- After bad state nothing is run, and nothing happens but words in the log. -/
theorem of_halted (course : Sailed context true asked state entries legs after) :
    (∀ entry ∈ entries, entry.outcome = .notRun) ∧ (∀ leg ∈ legs, leg = .skipped) ∧
      after.world = { state.world with journal := after.world.journal } := by
  generalize same : true = halted at course
  induction course with
  | arrived halted state => simp
  | skipped event going ih =>
    obtain ⟨entries, legs, world⟩ := ih same
    refine ⟨List.forall_mem_cons.mpr ⟨rfl, entries⟩, List.forall_mem_cons.mpr ⟨rfl, legs⟩, ?_⟩
    exact world
  | unknown event missing going ih => cases same
  | ran event known executed wrote going ih => cases same

theorem notRun_iff (course : Sailed context halted asked state entries legs after) {i : Nat}
    {entry : TacticSummary} (here : entries[i]? = some entry) :
    entry.outcome = .notRun ↔
      halted = true ∨ ∃ earlier ∈ entries.take i, earlier.outcome = .badState := by
  induction course generalizing i with
  | arrived halted state => simp at here
  | @skipped name _ _ _ entries _ event going ih =>
    simp only [true_or, iff_true]
    exact (Sailed.skipped event going).of_halted.1 entry (List.mem_of_getElem? here)
  | unknown event missing going ih =>
    cases i with
    | zero =>
      cases here
      simp [TacticSummary.unknown]
    | succ i =>
      rw [ih (by simpa using here)]
      simp [TacticSummary.unknown]
  | @ran _ _ _ _ _ _ _ answer written event known executed wrote going ih =>
    cases i with
    | zero =>
      cases here
      simp [TacticSummary.ran, (verdict_executed answer).1]
    | succ i =>
      rw [ih (by simpa using here)]
      simp [TacticSummary.ran]

/-- The world after bad state is the one that the tactic left, but for words in the log. -/
theorem still (course : Sailed context halted asked state entries legs after) {i : Nat}
    {entry : TacticSummary} {begun : Execution} (here : entries[i]? = some entry)
    (leg : legs[i]? = some (.ran begun)) (bad : entry.outcome = .badState) :
    after.world = { (begun.posted state.vessel.settings).2 with
      journal := after.world.journal } := by
  induction course generalizing i with
  | arrived halted state => simp at here
  | skipped event going ih =>
    cases i with
    | zero => cases leg
    | succ i => exact ih (by simpa using here) (by simpa using leg)
  | unknown event missing going ih =>
    cases i with
    | zero => cases leg
    | succ i => exact ih (by simpa using here) (by simpa using leg)
  | ran event known executed wrote going ih =>
    cases i with
    | zero =>
      cases here
      cases leg
      have halted := bad
      simp only [TacticSummary.ran] at halted
      simp only [halted, decide_true] at going
      exact going.of_halted.2.2
    | succ i => exact ih (by simpa using here) (by simpa using leg)

theorem counts (course : Sailed context halted asked state entries legs after) :
    (entries.filter TacticSummary.executed).map TacticSummary.counts =
      (legs.filterMap Leg.tactic?).map Tactic.counts := by
  have entered := course.entered
  clear course
  induction entered with
  | nil => rfl
  | @cons entry leg entries legs entered later ih =>
    cases ran : leg.tactic? with
    | none =>
      have idle : ¬entry.executed = true := by simp [entered.executed_iff, ran]
      rw [List.filter_cons_of_neg idle, List.filterMap_cons_none ran, ih]
    | some tactic =>
      have executed : entry.executed = true := entered.executed_iff.mpr (by simp [ran])
      rw [List.filter_cons_of_pos executed, List.filterMap_cons_some ran, List.map_cons,
        List.map_cons, entered.counts ran, ih]

theorem unknown_iff (course : Sailed context halted asked state entries legs after)
    {entry : TacticSummary} (member : entry ∈ entries) (run : entry.outcome ≠ .notRun) :
    entry.outcome = .unknown ↔ state.vessel.armory.strikes? entry.name = none := by
  have entered := course.entered
  clear course
  induction entered with
  | nil => cases member
  | cons entered later ih =>
    rcases List.mem_cons.mp member with rfl | member
    · exact entered.unknown_iff run
    · exact ih member

theorem executed_count (course : Sailed context halted asked state entries legs after) :
    entries.countP TacticSummary.executed = (legs.filterMap Leg.tactic?).length := by
  rw [List.countP_eq_length_filter, ← List.length_map TacticSummary.counts, course.counts,
    List.length_map]

end Sailed

theorem docked_changes (state : Voyage) (begun : Execution) (event : Event) :
    (state.docked begun event).world.changes = begun.left.world.changes := by
  obtain ⟨written, -, wrote⟩ := begun.posted_wrote state.vessel.settings
  simp only [docked, noted]
  rw [wrote.eq_files]

theorem docked_stays (state : Voyage) (context : StrikeContext) (name : String)
    (strikes : List Strike) (event : Event) :
    World.Stays state.world (state.docked (state.begun context name strikes) event).world := by
  obtain ⟨written, -, wrote⟩ :=
    (state.begun context name strikes).posted_wrote state.vessel.settings
  have stays := (state.begun context name strikes).execute_stays
  refine ⟨(FileTree.workingDirectory_of_ground wrote.ground).trans stays.workingDirectory, ?_⟩
  simp only [docked, noted]
  rw [wrote.eq_files]
  exact stays.now

/-- The run comes to its end, or the body of a strike ends the process on one of its legs. -/
def ComesToEnd {α : Type} (legs : List Leg) (outcome : Outcome α) : Prop :=
  (∃ value, outcome = .done value) ∨
    ∃ ending, outcome = .ended ending ∧ ∃ begun, .ran begun ∈ legs ∧
      ∃ start ∈ begun.started, start.run.1 = .ended ending

theorem ComesToEnd.cons {α : Type} {legs : List Leg} {outcome : Outcome α} (leg : Leg)
    (ends : ComesToEnd legs outcome) : ComesToEnd (leg :: legs) outcome := by
  rcases ends with done | ⟨ending, ended, begun, member, last⟩
  · exact .inl done
  · exact .inr ⟨ending, ended, begun, List.mem_cons_of_mem leg member, last⟩

/-- Where no revert function panics, a run over tactics comes to its end, unless the body of a strike
ends the process. -/
theorem runTactics_returns (context : StrikeContext) (names : List String) (summary : RunSummary)
    (state : Voyage) (returns : state.world.RevertsReturn)
    (gentle : state.vessel.armory.RevertsReturn) :
    ComesToEnd (legs context names summary state)
      (runTactics context names summary state).1 := by
  induction names generalizing summary state with
  | nil => exact .inl ⟨summary, rfl⟩
  | cons name rest ih =>
    simp only [runTactics, legs]
    cases halted : summary.badState with
    | true =>
      simp only [↓reduceIte, bind_apply, onWorld_log]
      exact (ih _ (state.noted _) returns gentle).cons .skipped
    | false =>
      simp only [Bool.false_eq_true, ↓reduceIte, bind_apply, vessel?]
      cases known : state.vessel.armory.strikes? name with
      | none =>
        simp only [bind_apply, onWorld_log]
        exact (ih _ (state.noted _) returns gentle).cons .unknown
      | some strikes =>
        simp only [bind_apply]
        have answered : (∃ result, (state.begun context name strikes).answered = .done result ∧
            (state.begun context name strikes).left.world.RevertsReturn) ∨ _ :=
          Execution.execute_returns rfl returns (gentle name strikes known)
        cases ran : runTactic name strikes context summary state with
        | mk outcome middle =>
          cases runTactic_cases ran with
          | done executed wrote event =>
            rcases answered with ⟨_, -, kept⟩ | ⟨_, ended, -⟩
            · have kept := kept.of_changes (docked_changes state _ event)
              exact (ih _ (state.docked _ event) kept gentle).cons _
            · cases executed.symm.trans ended
          | panicked executed =>
            rcases answered with ⟨_, done, -⟩ | ⟨_, ended, -⟩
            · cases executed.symm.trans done
            · cases executed.symm.trans ended
          | ended executed =>
            rcases answered with ⟨_, done, -⟩ | ⟨ending, ended, start⟩
            · cases executed.symm.trans done
            · cases executed.symm.trans ended
              exact .inr ⟨_, rfl, _, List.mem_cons_self, start⟩

def ownContext (state : Voyage) : StrikeContext :=
  { service := state.vessel.settings.serviceName, invasive := state.vessel.settings.invasive
    vars := state.vessel.settings.vars, ledger := (state.world.ledgers.add {}).1 }

def departed (state : Voyage) : Voyage :=
  let noted := state.noted (.logged ⟨.info, .vessel, [("message", .text "mobilizing"),
    ("tactics", .text (Text.shownList state.vessel.settings.tactics)),
    ("invasive", .flag state.vessel.settings.invasive)]⟩)
  { world := { noted.world with ledgers := (noted.world.ledgers.add {}).2 }
    vessel := { state.vessel with tactics := [] } }

def tour (state : Voyage) : Outcome RunSummary × Voyage :=
  runTactics state.ownContext state.vessel.settings.tactics
    { serviceName := state.vessel.settings.serviceName } state.departed

def ownLegs (state : Voyage) : List Leg :=
  legs state.ownContext state.vessel.settings.tactics
    { serviceName := state.vessel.settings.serviceName } state.departed

def finish (summary : RunSummary) : Event :=
  .logged ⟨.info, .vessel,
    [("message", .text "raid finished"), ("exit_code", .nat summary.exitCode)]⟩

theorem mobilize_eq {state : Voyage} (asked : state.vessel.settings.tactics ≠ []) :
    mobilize state =
      match state.tour with
      | (.done summary, after) => (.done (.ok summary), after.noted (finish summary))
      | (.panicked payload, after) => (.panicked payload, after)
      | (.ended ending, after) => (.ended ending, after) := by
  have some : state.vessel.settings.tactics.isEmpty = false := by simpa using asked
  simp only [mobilize, bind_apply, vessel?, some, Bool.false_eq_true, ↓reduceIte, onWorld_log]
  cases ran : state.tour with
  | mk outcome after =>
    simp only [tour, ownContext, departed, noted] at ran
    simp only [onWorld, Task.newLedger, onVessel, change_apply, noted, ran]
    cases outcome <;> rfl

theorem mobilize_outcome {state : Voyage} (asked : state.vessel.settings.tactics ≠ []) :
    (mobilize state).1 = state.tour.1.map .ok := by
  rw [mobilize_eq asked]
  rcases state.tour with ⟨summary | payload | ending, after⟩ <;> rfl

theorem mobilize_done {state after : Voyage} {answer : Except VesselError RunSummary}
    (asked : state.vessel.settings.tactics ≠ []) (run : mobilize state = (.done answer, after)) :
    ∃ summary middle, state.tour = (.done summary, middle) ∧ answer = .ok summary ∧
      after = middle.noted (finish summary) := by
  rw [mobilize_eq asked] at run
  cases toured : state.tour with
  | mk outcome middle =>
    rw [toured] at run
    cases outcome with
    | panicked payload => cases run
    | ended ending => cases run
    | done summary =>
      cases run
      exact ⟨summary, middle, rfl, rfl, rfl⟩

end Voyage

namespace RunSummary

variable (summary : RunSummary)

theorem badState_iff :
    summary.badState = true ↔ ∃ entry ∈ summary.tactics, entry.outcome = .badState := by
  simp [badState]

theorem failedCount_pos :
    0 < summary.failedCount ↔
      ∃ entry ∈ summary.tactics, entry.outcome = .failed ∨ entry.outcome = .unknown := by
  simp only [failedCount, List.countP_pos_iff]
  refine exists_congr fun entry => and_congr_right fun _ => ?_
  cases entry.outcome <;> simp [TacticOutcome.isFailure]

theorem exitCode_eq_two :
    summary.exitCode = 2 ↔ ∃ entry ∈ summary.tactics, entry.outcome = .badState := by
  rw [← badState_iff, exitCode]
  cases summary.badState with
  | true => simp
  | false =>
    simp only [Bool.false_eq_true, ↓reduceIte, iff_false]
    split <;> decide

theorem exitCode_eq_one :
    summary.exitCode = 1 ↔ (∀ entry ∈ summary.tactics, entry.outcome ≠ .badState) ∧
      ((∃ entry ∈ summary.tactics, entry.outcome = .failed ∨ entry.outcome = .unknown) ∨
        summary.persistFailures ≠ []) := by
  have calm : (∀ entry ∈ summary.tactics, entry.outcome ≠ .badState) ↔
      summary.badState = false := by simp [badState]
  rw [calm, ← failedCount_pos, exitCode]
  cases summary.badState with
  | true => simp
  | false =>
    by_cases failed : 0 < summary.failedCount ∨ summary.persistFailures ≠ [] <;> simp [failed]

theorem exitCode_le : summary.exitCode ≤ 2 := by
  unfold exitCode
  split
  · exact Nat.le_refl 2
  · split <;> decide

/-- The single answer of a summary: the first tactic that ended in bad state, or how many failed. -/
inductive Checked (summary : RunSummary) : Except VesselError Unit → Prop
  | badState {earlier later : List TacticSummary} {entry : TacticSummary}
    (tactics : summary.tactics = earlier ++ entry :: later)
    (first : ∀ other ∈ earlier, other.outcome ≠ .badState) (bad : entry.outcome = .badState) :
    Checked summary (.error (.badState entry.name))
  | failed (calm : ∀ entry ∈ summary.tactics, entry.outcome ≠ .badState)
    (failed : 0 < summary.failedCount) :
    Checked summary (.error (.tacticsFailed summary.failedCount summary.tactics.length))
  | passed (calm : ∀ entry ∈ summary.tactics, entry.outcome ≠ .badState)
    (fine : summary.failedCount = 0) : Checked summary (.ok ())

theorem check_checked : Checked summary summary.check := by
  unfold check
  split
  · rename_i entry found
    obtain ⟨bad, earlier, later, tactics, first⟩ := List.find?_eq_some_iff_append.mp found
    exact .badState tactics (by simpa using first) (by simpa using bad)
  · rename_i calm
    have calm : ∀ entry ∈ summary.tactics, entry.outcome ≠ .badState := by simpa using calm
    split
    · rename_i failed
      exact .failed calm failed
    · rename_i fine
      exact .passed calm (Nat.eq_zero_of_not_pos fine)

end RunSummary

namespace Voyage

/-- What the summary of a run over tactics reports of it. -/
structure Reported (before : Voyage) (summary : RunSummary) (after : Voyage) : Prop where
  names : summary.tactics.map TacticSummary.name = before.vessel.settings.tactics
  entered : List.Forall₂ (Entered before.vessel before.ownContext) summary.tactics before.ownLegs
  notRun : ∀ (i : Nat) (entry : TacticSummary), summary.tactics[i]? = some entry →
    (entry.outcome = .notRun ↔ ∃ earlier ∈ summary.tactics.take i, earlier.outcome = .badState)
  still : ∀ (i : Nat) (entry : TacticSummary) (begun : Execution),
    summary.tactics[i]? = some entry →
    before.ownLegs[i]? = some (.ran begun) → entry.outcome = .badState →
    after.world = { (begun.posted before.vessel.settings).2 with journal := after.world.journal }
  unknown : ∀ entry ∈ summary.tactics, entry.outcome ≠ .notRun →
    (entry.outcome = .unknown ↔ before.vessel.armory.strikes? entry.name = none)
  tactics : after.vessel.tactics = before.ownLegs.filterMap Leg.tactic?
  counts : (summary.tactics.filter TacticSummary.executed).map TacticSummary.counts =
    after.vessel.tactics.map Tactic.counts
  persisted : summary.persisted = summary.tactics.filterMap (·.resultsPath)
  posts : summary.persisted.length + summary.persistFailures.length =
    after.vessel.tactics.length
  failing : summary.exitCode = 2 ↔ ∃ entry ∈ summary.tactics, entry.outcome = .badState
  lacking : summary.exitCode = 1 ↔ (∀ entry ∈ summary.tactics, entry.outcome ≠ .badState) ∧
    ((∃ entry ∈ summary.tactics, entry.outcome = .failed ∨ entry.outcome = .unknown) ∨
      summary.persistFailures ≠ [])
  code : summary.exitCode ≤ 2
  checked : summary.Checked summary.check

theorem tour_reported {state after : Voyage} {summary : RunSummary}
    (run : state.tour = (.done summary, after)) : Reported state summary after := by
  obtain ⟨entries, course, grown⟩ := sailed run
  have entered : summary.tactics = entries := grown.tactics
  have vessel : after.vessel.tactics = state.ownLegs.filterMap Leg.tactic? := by
    rw [course.vessel]
    rfl
  have posts : summary.persisted.length + summary.persistFailures.length =
      after.vessel.tactics.length := by
    rw [grown.posts, vessel, course.executed_count]
    exact Nat.zero_add _
  subst entered
  exact {
    names := course.names
    entered := course.entered.imp fun _ _ => Entered.of_tactics
    notRun := fun i entry here => by simpa [RunSummary.badState] using course.notRun_iff here
    still := fun i entry begun here leg bad => course.still here leg bad
    unknown := fun entry member ran => course.unknown_iff member ran
    tactics := vessel
    counts := vessel ▸ course.counts
    persisted := grown.persisted
    posts := posts
    failing := summary.exitCode_eq_two
    lacking := summary.exitCode_eq_one
    code := summary.exitCode_le
    checked := summary.check_checked }

end Voyage

end Raid
