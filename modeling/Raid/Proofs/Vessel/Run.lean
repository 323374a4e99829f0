import Raid.Proofs.Results.Writing
import Raid.Vessel.Mobilize

/-!
A run over several tactics taken apart. Each tactic that was asked for is a leg of the voyage: it is
skipped after bad state, unknown to the armory, or executed and its results written. The run is
described by its legs, and its summary by one entry for each of them.
-/

namespace Raid

def Vessel.tactic (vessel : Vessel) (context : StrikeContext) (name : String)
    (strikes : List Strike) : Tactic :=
  { name, strikes, context, executed := vessel.executed, listens := vessel.listens }

namespace Execution

def answered (begun : Execution) : Outcome (Except TacticError Unit) := (execute begun).1

def left (begun : Execution) : Execution := (execute begun).2

def posted (settings : ServiceSettings) (begun : Execution) :
    Outcome (Except ResultsError String) × World :=
  writeTactic settings.writeDirectory settings.serviceName begun.left.tactic settings.output
    begun.left.world

theorem posted_wrote (settings : ServiceSettings) (begun : Execution) :
    ∃ written, (begun.posted settings).1 = .done written ∧
      Wrote settings.writeDirectory settings.serviceName begun.left.tactic settings.output
        begun.left.world written (begun.posted settings).2 := by
  obtain ⟨written, world, wrote, cases⟩ := writeTactic_cases settings.writeDirectory
    settings.serviceName begun.left.tactic settings.output begun.left.world
  exact ⟨written, congrArg Prod.fst wrote, by rwa [posted, wrote]⟩

end Execution

inductive Leg where
  | skipped
  | unknown
  | ran (begun : Execution)

namespace RunSummary

def posted (summary : RunSummary) : Except ResultsError String → RunSummary
  | .ok path => { summary with persisted := summary.persisted ++ [path] }
  | .error error => { summary with persistFailures := summary.persistFailures ++ [error.message] }

@[simp] theorem tactics_posted (summary : RunSummary) (written : Except ResultsError String) :
    (summary.posted written).tactics = summary.tactics := by
  cases written <;> rfl

end RunSummary

namespace TacticSummary

def notRun (name : String) : TacticSummary :=
  { name, outcome := .notRun, message := Voyage.skippedMessage }

def unknown (name : String) : TacticSummary :=
  { name, outcome := .unknown, message := (VesselError.unknownTactic name).message }

def ran (name : String) (answer : Except TacticError Unit) (tactic : Tactic)
    (written : Except ResultsError String) : TacticSummary :=
  { name, outcome := (Voyage.verdict answer).1, message := (Voyage.verdict answer).2
    attempts := tactic.attempts, successes := tactic.successes, failures := tactic.failures
    resultsPath := written.toOption }

end TacticSummary

namespace Voyage

open Act Execution

def noted (event : Event) (state : Voyage) : Voyage :=
  { state with world := { state.world with journal := state.world.journal ++ [event] } }

theorem onWorld_log (level : LogLevel) (area : LogArea) (message : String)
    (fields : List (String × Json)) (state : Voyage) :
    onWorld (Task.log level area message fields) state =
      (.done (), state.noted (.logged ⟨level, area, ("message", .text message) :: fields⟩)) := rfl

def begun (state : Voyage) (context : StrikeContext) (name : String) (strikes : List Strike) :
    Execution :=
  ⟨state.world, state.vessel.tactic context name strikes⟩

def docked (state : Voyage) (begun : Execution) (event : Event) : Voyage :=
  noted event { world := (begun.posted state.vessel.settings).2
                vessel := { state.vessel with
                  tactics := state.vessel.tactics ++ [begun.left.tactic] } }

inductive Docked (name : String) (begun : Execution) (summary : RunSummary) (state : Voyage) :
    Outcome RunSummary → Voyage → Prop
  | done {answer : Except TacticError Unit} {written : Except ResultsError String}
    (executed : begun.answered = .done answer)
    (wrote : (begun.posted state.vessel.settings).1 = .done written) (event : Event) :
    Docked name begun summary state
      (.done ((summary.posted written).add (.ran name answer begun.left.tactic written)))
      (state.docked begun event)
  | panicked {payload : Payload} (executed : begun.answered = .panicked payload) :
    Docked name begun summary state (.panicked payload) { state with world := begun.left.world }
  | ended {ending : Ending} (executed : begun.answered = .ended ending) :
    Docked name begun summary state (.ended ending) { state with world := begun.left.world }

theorem persist_eq {tactic : Tactic} {state : Voyage} {written : Except ResultsError String}
    {world : World} (summary : RunSummary)
    (wrote : writeTactic state.vessel.settings.writeDirectory state.vessel.settings.serviceName
      tactic state.vessel.settings.output state.world = (.done written, world)) :
    ∃ event, persist tactic summary state =
      (.done (written.toOption, summary.posted written), noted event { state with world }) := by
  simp only [persist, bind_apply, vessel?, onWorld, wrote]
  cases written with
  | ok path => exact ⟨_, rfl⟩
  | error error => exact ⟨_, rfl⟩

theorem runTactic_cases {name : String} {strikes : List Strike} {context : StrikeContext}
    {summary : RunSummary} {state after : Voyage} {outcome : Outcome RunSummary}
    (run : runTactic name strikes context summary state = (outcome, after)) :
    Docked name (state.begun context name strikes) summary state outcome after := by
  cases ran : Execution.execute (state.begun context name strikes) with
  | mk answer final =>
    have answered : (state.begun context name strikes).answered = answer := congrArg Prod.fst ran
    have left : (state.begun context name strikes).left = final := congrArg Prod.snd ran
    simp only [begun, Vessel.tactic] at ran
    simp only [runTactic, bind_apply, vessel?, Voyage.execute, ran] at run
    cases answer with
    | panicked payload =>
      cases run
      rw [← left]
      exact .panicked answered
    | ended ending =>
      cases run
      rw [← left]
      exact .ended answered
    | done result =>
      obtain ⟨written, world, wrote, -⟩ := writeTactic_cases state.vessel.settings.writeDirectory
        state.vessel.settings.serviceName final.tactic state.vessel.settings.output final.world
      have posted : (state.begun context name strikes).posted state.vessel.settings =
          (.done written, world) := by
        rw [Execution.posted, left]
        exact wrote
      obtain ⟨event, persisted⟩ :=
        persist_eq summary (show writeTactic _ _ _ _ (Voyage.mk final.world state.vessel).world = _
          from wrote)
      have docked : Docked name (state.begun context name strikes) summary state _ _ :=
        .done answered (congrArg Prod.fst posted) event
      rw [Voyage.docked, posted, left] at docked
      simp only [persisted, onVessel, change_apply] at run
      cases run
      exact docked

def legs (context : StrikeContext) : List String → RunSummary → Voyage → List Leg
  | [], _, _ => []
  | name :: rest, summary, state =>
    if summary.badState then
      .skipped :: legs context rest (summary.add (.notRun name))
        (onWorld (Task.log .warn .vessel "not running tactic after bad state"
          [("tactic", .text name)]) state).2
    else
      match state.vessel.armory.strikes? name with
      | none =>
        .unknown :: legs context rest (summary.add (.unknown name))
          (onWorld (Task.log .error .vessel (VesselError.unknownTactic name).message
            [("tactic", .text name)]) state).2
      | some strikes =>
        .ran (state.begun context name strikes) ::
          match runTactic name strikes context summary state with
          | (.done summary, after) => legs context rest summary after
          | _ => []

/-- The course of a run over tactics that comes to its end, with what is said of each tactic and its
leg. The flag says whether bad state came before. -/
inductive Sailed (context : StrikeContext) :
    Bool → List String → Voyage → List TacticSummary → List Leg → Voyage → Prop
  | arrived (halted : Bool) (state : Voyage) : Sailed context halted [] state [] [] state
  | skipped {name : String} {rest : List String} {state after : Voyage}
    {entries : List TacticSummary} {legs : List Leg} (event : Event)
    (going : Sailed context true rest (state.noted event) entries legs after) :
    Sailed context true (name :: rest) state (.notRun name :: entries) (.skipped :: legs) after
  | unknown {name : String} {rest : List String} {state after : Voyage}
    {entries : List TacticSummary} {legs : List Leg} (event : Event)
    (missing : state.vessel.armory.strikes? name = none)
    (going : Sailed context false rest (state.noted event) entries legs after) :
    Sailed context false (name :: rest) state (.unknown name :: entries) (.unknown :: legs) after
  | ran {name : String} {rest : List String} {state after : Voyage}
    {entries : List TacticSummary} {legs : List Leg} {strikes : List Strike}
    {answer : Except TacticError Unit} {written : Except ResultsError String} (event : Event)
    (known : state.vessel.armory.strikes? name = some strikes)
    (executed : (state.begun context name strikes).answered = .done answer)
    (wrote : ((state.begun context name strikes).posted state.vessel.settings).1 = .done written)
    (going : Sailed context ((verdict answer).1 = .badState) rest
      (state.docked (state.begun context name strikes) event) entries legs after) :
    Sailed context false (name :: rest) state
      (.ran name answer (state.begun context name strikes).left.tactic written :: entries)
      (.ran (state.begun context name strikes) :: legs) after

end Voyage

def TacticSummary.executed (entry : TacticSummary) : Bool :=
  entry.outcome ≠ .notRun && entry.outcome ≠ .unknown

theorem Voyage.verdict_executed (answer : Except TacticError Unit) :
    (Voyage.verdict answer).1 ≠ .notRun ∧ (Voyage.verdict answer).1 ≠ .unknown := by
  cases answer with
  | ok value => simp [Voyage.verdict]
  | error error => cases error <;> simp [Voyage.verdict, TacticError.isFatal]

@[simp] theorem TacticSummary.executed_ran (name : String) (answer : Except TacticError Unit)
    (tactic : Tactic) (written : Except ResultsError String) :
    (TacticSummary.ran name answer tactic written).executed = true := by
  simp [executed, ran, Voyage.verdict_executed answer]

structure Grown (before : RunSummary) (entries : List TacticSummary) (after : RunSummary) :
    Prop where
  service : after.serviceName = before.serviceName
  tactics : after.tactics = before.tactics ++ entries
  persisted : after.persisted = before.persisted ++ entries.filterMap (·.resultsPath)
  posts : after.persisted.length + after.persistFailures.length =
    before.persisted.length + before.persistFailures.length +
      entries.countP TacticSummary.executed

namespace Grown

variable {before after : RunSummary} {entries : List TacticSummary}

theorem refl (summary : RunSummary) : Grown summary [] summary := ⟨rfl, by simp, by simp, by simp⟩

theorem passed {entry : TacticSummary} (grown : Grown (before.add entry) entries after)
    (idle : entry.executed = false) (unwritten : entry.resultsPath = none) :
    Grown before (entry :: entries) after where
  service := grown.service
  tactics := by simp [grown.tactics, RunSummary.add]
  persisted := by simp [grown.persisted, RunSummary.add, unwritten]
  posts := by simpa [RunSummary.add, idle] using grown.posts

theorem ran {name : String} {answer : Except TacticError Unit} {tactic : Tactic}
    {written : Except ResultsError String}
    (grown : Grown ((before.posted written).add (.ran name answer tactic written)) entries after) :
    Grown before (.ran name answer tactic written :: entries) after where
  service := by
    rw [grown.service]
    cases written <;> rfl
  tactics := by simp [grown.tactics, RunSummary.add]
  persisted := by
    rw [grown.persisted]
    cases written <;> simp [RunSummary.add, RunSummary.posted, TacticSummary.ran, Except.toOption]
  posts := by
    rw [grown.posts, List.countP_cons_of_pos (TacticSummary.executed_ran name answer tactic written)]
    cases written <;> simp [RunSummary.add, RunSummary.posted] <;> omega

end Grown

namespace Voyage

open Act

theorem badState_add (summary : RunSummary) (entry : TacticSummary) :
    (summary.add entry).badState = (summary.badState || decide (entry.outcome = .badState)) := by
  simp [RunSummary.badState, RunSummary.add]

@[simp] theorem badState_posted (summary : RunSummary) (written : Except ResultsError String) :
    (summary.posted written).badState = summary.badState := by
  simp [RunSummary.badState]

theorem sailed {context : StrikeContext} {names : List String} {summary told : RunSummary}
    {state after : Voyage} (run : runTactics context names summary state = (.done told, after)) :
    ∃ entries, Sailed context summary.badState names state entries
      (legs context names summary state) after ∧ Grown summary entries told := by
  induction names generalizing summary state with
  | nil =>
    cases run
    exact ⟨[], .arrived _ _, .refl _⟩
  | cons name rest ih =>
    simp only [runTactics] at run
    simp only [legs]
    cases halted : summary.badState with
    | true =>
      simp only [halted, ↓reduceIte, bind_apply, onWorld_log] at run ⊢
      obtain ⟨entries, course, grown⟩ := ih run
      simp only [badState_add, halted, Bool.true_or] at course
      exact ⟨_, .skipped _ course, grown.passed rfl rfl⟩
    | false =>
      simp only [halted, Bool.false_eq_true, ↓reduceIte, bind_apply, vessel?] at run ⊢
      cases known : state.vessel.armory.strikes? name with
      | none =>
        simp only [known, bind_apply, onWorld_log] at run ⊢
        obtain ⟨entries, course, grown⟩ := ih run
        simp only [badState_add, halted, Bool.false_or] at course
        exact ⟨_, .unknown _ known course, grown.passed rfl rfl⟩
      | some strikes =>
        simp only [known, bind_apply] at run ⊢
        cases ran : runTactic name strikes context summary state with
        | mk outcome middle =>
          simp only [ran] at run ⊢
          cases runTactic_cases ran with
          | panicked executed => cases run
          | ended executed => cases run
          | done executed wrote event =>
            obtain ⟨entries, course, grown⟩ := ih run
            simp only [badState_add, badState_posted, halted, Bool.false_or] at course
            exact ⟨_, .ran event known executed wrote course, grown.ran⟩

end Voyage

end Raid
