import Raid.Json.Basic
import Raid.Settings.Basic
import Raid.Tactic.Basic

/-!
What a run over several tactics comes to: an outcome for each tactic, and from these one answer
for the whole run.
-/

namespace Raid

inductive TacticOutcome where
  | passed
  | failed
  | badState
  /-- The armory has no tactic of this name. -/
  | unknown
  /-- An earlier tactic left the target in a bad state. -/
  | notRun
  deriving Repr, DecidableEq

namespace TacticOutcome

def word : TacticOutcome → String
  | passed => "passed"
  | failed => "failed"
  | badState => "bad_state"
  | unknown => "unknown"
  | notRun => "not_run"

def text : TacticOutcome → String
  | passed => "passed"
  | failed => "failed"
  | badState => "bad state"
  | unknown => "unknown"
  | notRun => "not run"

/-- Outcomes that make the run a failure without leaving the target in a bad state. -/
def isFailure : TacticOutcome → Bool
  | failed | unknown => true
  | _ => false

end TacticOutcome

inductive VesselError where
  | settings (error : SettingsError)
  | unknownTactic (name : String)
  | badState (tactic : String)
  | tacticsFailed (failed total : Nat)
  deriving Repr, DecidableEq

namespace VesselError

def message : VesselError → String
  | settings error => error.message
  | unknownTactic name => "Tactic '" ++ name ++ "' is not registered in the armory"
  | badState _ => badStateMessage
  | tacticsFailed failed total =>
    toString failed ++ "/" ++ toString total ++ " tactics reported failures"

end VesselError

structure TacticSummary where
  name : String
  outcome : TacticOutcome
  attempts : Nat := 0
  successes : Nat := 0
  failures : Nat := 0
  message : String
  /-- The file that the results were written to. -/
  resultsPath : Option String := none
  deriving Repr

structure RunSummary where
  serviceName : String
  tactics : List TacticSummary := []
  /-- The files that were written. -/
  persisted : List String := []
  /-- Why others were not. -/
  persistFailures : List String := []
  deriving Repr

namespace RunSummary

def badState (summary : RunSummary) : Bool :=
  summary.tactics.any fun tactic => tactic.outcome = .badState

def failedCount (summary : RunSummary) : Nat :=
  summary.tactics.countP fun tactic => tactic.outcome.isFailure

/-- Two after bad state, one after any other failure, zero when everything passed. -/
def exitCode (summary : RunSummary) : Nat :=
  if summary.badState then 2
  else if 0 < summary.failedCount ∨ !summary.persistFailures.isEmpty then 1
  else 0

/-- The summary as a single answer. Results that could not be written do not count here. -/
def check (summary : RunSummary) : Except VesselError Unit :=
  match summary.tactics.find? fun tactic => tactic.outcome = .badState with
  | some halted => .error (.badState halted.name)
  | none =>
    if 0 < summary.failedCount then
      .error (.tacticsFailed summary.failedCount summary.tactics.length)
    else .ok ()

def add (summary : RunSummary) (tactic : TacticSummary) : RunSummary :=
  { summary with tactics := summary.tactics ++ [tactic] }

end RunSummary

namespace TacticSummary

def toJson (summary : TacticSummary) : Json :=
  .object ([("name", .text summary.name), ("outcome", .text summary.outcome.word),
    ("attempts", .nat summary.attempts), ("successes", .nat summary.successes),
    ("failures", .nat summary.failures), ("message", .text summary.message)] ++
    match summary.resultsPath with
    | some path => [("results_path", .text path)]
    | none => [])

end TacticSummary

end Raid
