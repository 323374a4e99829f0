import Raid.Armory.Basic
import Raid.Tactic.Status

/-!
Tactics: ordered lists of strikes that are executed as one unit.
-/

namespace Raid

inductive TacticError where
  | nameUnset
  | alreadyExecuted (name : String)
  | badState (name : String)
  | strikesFailed (name : String) (succeeded attempted : Nat)
  deriving Repr, DecidableEq

namespace TacticError

def message : TacticError → String
  | nameUnset => "tactic name is not set"
  | alreadyExecuted name => "tactic " ++ name ++ " has already been executed"
  | badState _ => badStateMessage
  | strikesFailed _ succeeded attempted =>
    toString succeeded ++ "/" ++ toString attempted ++ " strikes succeeded"

/-- Bad state is the only outcome after which nothing may go on. -/
def isFatal : TacticError → Bool
  | badState _ => true
  | _ => false

end TacticError

structure Tactic where
  name : String
  status : TacticStatus := .notStarted
  startTime : Option Moment := none
  endTime : Option Moment := none
  passed : Bool := false
  badStateAlert : Bool := false
  attempts : Nat := 0
  successes : Nat := 0
  failures : Nat := 0
  strikeResults : Dict StrikeResult := {}
  strikes : List Strike := []
  context : StrikeContext
  executed : Ref ExecutedStrikes
  /-- Whether the listener of the process watches an execution. -/
  listens : Bool := false
  /-- A listener that watches instead of that of the process. -/
  slot : Option (Ref WatchSlot) := none
  deriving Repr

namespace Tactic

def strikeNames (tactic : Tactic) : List String := tactic.strikes.map Strike.name

def reportWith {χ : Type} (f : Ref Change → χ) (tactic : Tactic) : TacticReport χ :=
  { name := tactic.name, status := tactic.status, startTime := tactic.startTime
    endTime := tactic.endTime, passed := tactic.passed, badStateAlert := tactic.badStateAlert
    attempts := tactic.attempts, successes := tactic.successes, failures := tactic.failures
    strikeResults := tactic.strikeResults.map fun result => result.report.map f }

def record (world : World) (tactic : Tactic) : TacticReport ChangeRecord :=
  tactic.reportWith fun ref => (world.change ref).record

end Tactic

end Raid
