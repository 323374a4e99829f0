import Raid.Moment
import Raid.Strike.Report

/-!
How far a tactic has come, and what is kept of it when it is written down.
-/

namespace Raid

inductive TacticStatus where
  | notStarted
  | running
  | completed
  | haltedBadState
  deriving Repr, DecidableEq

namespace TacticStatus

def word : TacticStatus → String
  | notStarted => "not_started"
  | running => "running"
  | completed => "completed"
  | haltedBadState => "halted_bad_state"

def text : TacticStatus → String
  | notStarted => "not started"
  | running => "running"
  | completed => "completed"
  | haltedBadState => "halted (bad state)"

def ofWord? (word : String) : Option TacticStatus :=
  if word = "not_started" then some notStarted
  else if word = "running" then some running
  else if word = "completed" then some completed
  else if word = "halted_bad_state" then some haltedBadState
  else none

theorem ofWord?_word (status : TacticStatus) : ofWord? status.word = some status := by
  cases status <;> decide

end TacticStatus

structure TacticReport (χ : Type) where
  name : String
  status : TacticStatus := .notStarted
  startTime : Option Moment := none
  endTime : Option Moment := none
  passed : Bool := false
  badStateAlert : Bool := false
  attempts : Nat := 0
  successes : Nat := 0
  failures : Nat := 0
  strikeResults : Dict (StrikeReport χ) := {}
  deriving Repr

end Raid
