import Raid.Results.File
import Raid.Tactic.Execution
import Raid.Vessel.Summary

/-!
Running the tactics that the settings of a service ask for, one after the other, and writing the
results of each. After bad state no further tactic is run. All tactics share one list of executed
strikes, so that none runs twice.
-/

namespace Raid

structure Vessel where
  settings : ServiceSettings
  armory : Armory
  /-- The tactics that the last run executed. -/
  tactics : List Tactic := []
  executed : Ref ExecutedStrikes
  /-- Whether the listener of the process watches the executions. -/
  listens : Bool := true
  deriving Repr

structure Voyage where
  world : World
  vessel : Vessel

namespace Voyage

def onWorld {α : Type} (task : Task α) : Act Voyage α := fun state =>
  let (outcome, world) := task state.world
  (outcome, { state with world := world })

def onVessel (f : Vessel → Vessel) : Act Voyage Unit :=
  Act.change fun state => { state with vessel := f state.vessel }

def vessel? : Act Voyage Vessel := fun state => (.done state.vessel, state)

def execute (tactic : Tactic) : Act Voyage (Except TacticError Unit × Tactic) := fun state =>
  match Execution.execute ⟨state.world, tactic⟩ with
  | (.done result, after) => (.done (result, after.tactic), { state with world := after.world })
  | (.panicked payload, after) => (.panicked payload, { state with world := after.world })
  | (.ended ending, after) => (.ended ending, { state with world := after.world })

def verdict : Except TacticError Unit → TacticOutcome × String
  | .ok () => (.passed, "All strikes passed")
  | .error error => (if error.isFatal then .badState else .failed, error.message)

/-- Writes the results of a tactic and notes the file, or why there is none. -/
def persist (tactic : Tactic) (summary : RunSummary) :
    Act Voyage (Option String × RunSummary) := do
  let settings := (← vessel?).settings
  let written ← onWorld
    (writeTactic settings.writeDirectory settings.serviceName tactic settings.output)
  match written with
  | .ok path =>
    onWorld (Task.log .info .vessel "results written"
      [("tactic", .text tactic.name), ("path", .text path)])
    pure (some path, { summary with persisted := summary.persisted ++ [path] })
  | .error error =>
    onWorld (Task.log .error .vessel "failed to write results"
      [("tactic", .text tactic.name), ("error", .text error.message)])
    pure (none, { summary with persistFailures := summary.persistFailures ++ [error.message] })

def runTactic (name : String) (strikes : List Strike) (context : StrikeContext)
    (summary : RunSummary) : Act Voyage RunSummary := do
  let vessel ← vessel?
  let (result, tactic) ← execute
    { name, strikes, context, executed := vessel.executed, listens := vessel.listens }
  let (outcome, message) := verdict result
  let (resultsPath, summary) ← persist tactic summary
  onVessel fun vessel => { vessel with tactics := vessel.tactics ++ [tactic] }
  pure (summary.add
    { name, outcome, message, resultsPath, attempts := tactic.attempts
      successes := tactic.successes, failures := tactic.failures })

def skippedMessage : String := "Skipped after an earlier tactic left the target in a bad state"

/-- Runs tactics in turn. After bad state they are skipped; unknown ones are passed over. -/
def runTactics (context : StrikeContext) : List String → RunSummary → Act Voyage RunSummary
  | [], summary => pure summary
  | name :: rest, summary => do
    if summary.badState then
      onWorld (Task.log .warn .vessel "not running tactic after bad state"
        [("tactic", .text name)])
      runTactics context rest
        (summary.add { name, outcome := .notRun, message := skippedMessage })
    else
      match (← vessel?).armory.strikes? name with
      | none =>
        let message := (VesselError.unknownTactic name).message
        onWorld (Task.log .error .vessel message [("tactic", .text name)])
        runTactics context rest (summary.add { name, outcome := .unknown, message })
      | some strikes =>
        let summary ← runTactic name strikes context summary
        runTactics context rest summary

def mobilize : Act Voyage (Except VesselError RunSummary) := do
  let settings := (← vessel?).settings
  if settings.tactics.isEmpty then
    pure (.error (.settings (.noTactics settings.serviceName)))
  else
    onWorld (Task.log .info .vessel "mobilizing"
      [("tactics", .text (Text.shownList settings.tactics)), ("invasive", .flag settings.invasive)])
    let ledger ← onWorld Task.newLedger
    let context : StrikeContext :=
      { service := settings.serviceName, invasive := settings.invasive, vars := settings.vars
        ledger }
    onVessel fun vessel => { vessel with tactics := [] }
    let summary ← runTactics context settings.tactics { serviceName := settings.serviceName }
    onWorld (Task.log .info .vessel "raid finished" [("exit_code", .nat summary.exitCode)])
    pure (.ok summary)

end Voyage

end Raid
