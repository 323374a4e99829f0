import Raid.Json.Reader
import Raid.Results.Decoding
import Raid.Results.Format
import Raid.Tactic.Basic
import Raid.World
import Raid.Yaml.Node

/-!
Files of results: writing a tactic's record and reading it back as a tactic that can be inspected
but has nothing to run.
-/

namespace Raid

namespace TacticReport

def fileText (report : TacticReport ChangeRecord) : OutputFormat → String
  | .json => Json.pretty report.toJson
  | .yaml => Yaml.print report.toJson

def ofFileText? (text : String) : OutputFormat → Option (TacticReport ChangeRecord)
  | .json => (Json.parse text).bind ofNode?
  | .yaml => (Yaml.Node.parse text).bind ofNode?

end TacticReport

/-- Writes the record of a tactic to the file for its results, making the directories above it,
and returns the file's path. -/
def writeTactic (directory service : String) (tactic : Tactic) (format : OutputFormat) :
    Task (Except ResultsError String) := do
  match resultsPath directory service tactic.name format with
  | .error error => pure (.error error)
  | .ok path =>
    let above := (Path.parent? path).getD ""
    let (made, files) := (← Act.read).files.makeDirectories above
    Task.setFiles files
    match made with
    | .error cause => pure (.error (.createDirectory above cause))
    | .ok () =>
      let text := (tactic.record (← Act.read)).fileText format
      match files.write path text with
      | .error cause => pure (.error (.write path cause))
      | .ok files =>
        Task.setFiles files
        Task.log .debug .results "wrote tactic results" [("path", .text path)]
        pure (.ok path)

def Dict.forEachValue {α β : Type} (work : α → Task β) (dict : Dict α) : Task (Dict β) := do
  let entries ← Act.forEach (fun entry => do pure (entry.1, ← work entry.2)) dict.entries
  pure (Dict.ofList entries)

namespace MovementReport

def restored (report : MovementReport ChangeRecord) : Task (MovementReport (Ref Change)) := do
  let changes ← report.changes.forEachValue fun record => Task.newChange record.toChange
  pure { passed := report.passed, description := report.description, message := report.message
         functionName := report.functionName, value := report.value, changes }

end MovementReport

namespace StrikeReport

def restored (report : StrikeReport ChangeRecord) : Task (StrikeReport (Ref Change)) := do
  let movements ← report.movements.forEachValue MovementReport.restored
  pure { passed := report.passed, description := report.description, message := report.message
         docsUrl := report.docsUrl, controlId := report.controlId, movements
         badStateAlert := report.badStateAlert }

end StrikeReport

namespace TacticReport

/-- The tactic that a record tells of. It has no strikes and listens for no signals. -/
def restored (report : TacticReport ChangeRecord) : Task Tactic := do
  let strikeResults ← report.strikeResults.forEachValue fun strike => do
    pure ({ report := ← strike.restored } : StrikeResult)
  pure { name := report.name, status := report.status, startTime := report.startTime
         endTime := report.endTime, passed := report.passed
         badStateAlert := report.badStateAlert, attempts := report.attempts
         successes := report.successes, failures := report.failures, strikeResults
         context := { ledger := ← Task.newLedger }, executed := ← Task.newExecuted [] }

end TacticReport

def readRecord (files : FileTree) (path : String) :
    Except ResultsError (TacticReport ChangeRecord) :=
  match files.read path with
  | .error cause => .error (.read path cause)
  | .ok text =>
    match TacticReport.ofFileText? text (.ofPath path) with
    | some report => .ok report
    | none => .error (.parse path "not a record of a tactic")

def loadTactic (path : String) : Task (Except ResultsError Tactic) := do
  match readRecord (← Act.read).files path with
  | .error error => pure (.error error)
  | .ok report => pure (.ok (← report.restored))

end Raid
