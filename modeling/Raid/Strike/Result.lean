import Raid.Ledger

/-!
Running movements and folding them into the result of a strike, and following a strike through:
whatever it changed is undone before its result counts.
-/

namespace Raid.StrikeResult

/-- The message of a strike whose movements never reported anything. -/
def notImplementedMessage : String :=
  "Strike did not return a result and may not be implemented yet"

/-- Runs a movement, registers the changes that it returns, and folds its report in. -/
def executeMovement (result : StrikeResult) (name : String)
    (movement : Task (MovementReport (Ref Change))) : Task StrikeResult := do
  let report ← movement
  let report := { report with functionName := name }
  match result.ledger with
  | some ledger => Ledger.trackEach ledger report.changes.values
  | none => pure ()
  Task.emit (.logged ⟨.debug, .strike,
    [("movement", .text name), ("passed", .flag report.passed), ("message", .text report.message)]⟩)
  pure (result.withReport (result.report.record name report))

/-- Runs a movement only when invasive ones are permitted. -/
def executeInvasiveMovement (result : StrikeResult) (name : String)
    (movement : Task (MovementReport (Ref Change))) : Task StrikeResult := do
  if result.invasive then executeMovement result name movement
  else
    Task.log .trace .strike "skipping invasive movement" [("movement", .text name)]
    pure result

/-- Reverts every change of the strike, going on after failures, which it returns. -/
def revertChanges (result : StrikeResult) : Task (List ChangeError) :=
  Change.revertEach .strike "failed to revert change" result.report.changes

/-- A result without a message gets one. -/
def withDefaultMessage (result : StrikeResult) : StrikeResult :=
  if result.report.message.isEmpty then
    result.withReport { result.report with message := notImplementedMessage }
  else result

def alerted (result : StrikeResult) : StrikeResult :=
  result.withReport { result.report with badStateAlert := true, message := badStateMessage }

/-- The second part of following through: reverts the changes and raises the alert when one
fails. -/
def settle (result : StrikeResult) : Task StrikeResult := do
  let failures ← result.revertChanges
  pure (if failures.isEmpty then result else result.alerted)

/-- Finishes a strike: it has a message, its changes are reverted whatever its outcome, and the
alert is raised when one could not be. Doing it again changes nothing. -/
def followThrough (result : StrikeResult) : Task StrikeResult := result.withDefaultMessage.settle

end Raid.StrikeResult
