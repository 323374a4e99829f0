import Raid.Change.Basic
import Raid.Tactic.Status

/-!
The written form of results as values: which fields there are, in which order, and which are left
out when they say nothing.
-/

namespace Raid

def field (key : String) (value : Json) : List (String × Json) := [(key, value)]

/-- A field that is left out under a condition. -/
def optionalField (omitted : Bool) (key : String) (value : Json) : List (String × Json) :=
  if omitted then [] else [(key, value)]

def ChangeRecord.toJson (record : ChangeRecord) : Json :=
  .object
    (field "name" (.text record.name) ++
      field "description" (.text record.description) ++
      field "applied" (.flag record.applied) ++
      field "reverted" (.flag record.reverted) ++
      field "bad_state" (.flag record.badState) ++
      match record.error with
      | some error => [("error", .text error)]
      | none => [])

def MovementReport.toJson (report : MovementReport ChangeRecord) : Json :=
  .object
    (field "passed" (.flag report.passed) ++
      field "description" (.text report.description) ++
      field "message" (.text report.message) ++
      field "function_name" (.text report.functionName) ++
      optionalField report.value.isNull "value" report.value ++
      optionalField report.changes.isEmpty "changes"
        (.object (report.changes.map ChangeRecord.toJson).entries))

def StrikeReport.toJson (report : StrikeReport ChangeRecord) : Json :=
  .object
    (field "passed" (.flag report.passed) ++
      field "description" (.text report.description) ++
      field "message" (.text report.message) ++
      optionalField report.docsUrl.isEmpty "docs_url" (.text report.docsUrl) ++
      optionalField report.controlId.isEmpty "control_id" (.text report.controlId) ++
      field "movements" (.object (report.movements.map MovementReport.toJson).entries) ++
      field "bad_state_alert" (.flag report.badStateAlert))

def timeJson (time : Option Moment) : Json :=
  match time with
  | some moment => .text moment.text
  | none => .null

def TacticReport.toJson (report : TacticReport ChangeRecord) : Json :=
  .object
    (field "name" (.text report.name) ++
      field "status" (.text report.status.word) ++
      field "start_time" (timeJson report.startTime) ++
      field "end_time" (timeJson report.endTime) ++
      field "passed" (.flag report.passed) ++
      field "bad_state_alert" (.flag report.badStateAlert) ++
      field "attempts" (.nat report.attempts) ++
      field "successes" (.nat report.successes) ++
      field "failures" (.nat report.failures) ++
      field "strike_results" (.object (report.strikeResults.map StrikeReport.toJson).entries))

end Raid
