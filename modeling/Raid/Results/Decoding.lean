import Raid.Document.JsonNode
import Raid.Results.Encoding

/-!
Reading results back from a document of any notation. A record may be given by names or by
position; what was left out when it was written has its default.
-/

namespace Raid

open DocumentNode Document

variable {ν : Type} [DocumentNode ν]

def ChangeRecord.ofNode? (node : ν) : Option ChangeRecord := do
  let fields ←
    fields ["name", "description", "applied", "reverted", "bad_state", "error"] node
  let name ← fields.required "name" text?
  let description ← fields.defaulted "description" "" text?
  let applied ← fields.required "applied" flag?
  let reverted ← fields.required "reverted" flag?
  let badState ← fields.defaulted "bad_state" false flag?
  let error ← fields.nullable "error" text?
  some ⟨name, description, applied, reverted, badState, error⟩

def MovementReport.ofNode? (node : ν) : Option (MovementReport ChangeRecord) := do
  let fields ←
    fields ["passed", "description", "message", "function_name", "value", "changes"] node
  let passed ← fields.required "passed" flag?
  let description ← fields.required "description" text?
  let message ← fields.required "message" text?
  let functionName ← fields.defaulted "function_name" "" text?
  let value ← fields.defaulted "value" .null json?
  let changes ← fields.defaulted "changes" {} (dict ChangeRecord.ofNode?)
  some { passed, description, message, functionName, value, changes }

def StrikeReport.ofNode? (node : ν) : Option (StrikeReport ChangeRecord) := do
  let fields ←
    fields ["passed", "description", "message", "docs_url", "control_id", "movements",
      "bad_state_alert"] node
  let passed ← fields.required "passed" flag?
  let description ← fields.required "description" text?
  let message ← fields.required "message" text?
  let docsUrl ← fields.defaulted "docs_url" "" text?
  let controlId ← fields.defaulted "control_id" "" text?
  let movements ← fields.defaulted "movements" {} (dict MovementReport.ofNode?)
  let badStateAlert ← fields.defaulted "bad_state_alert" false flag?
  some { passed, description, message, docsUrl, controlId, movements, badStateAlert }

def count? (node : ν) : Option Nat := do
  let value ← natural? node
  if value < Nat.pow 2 32 then some value else none

def moment? (node : ν) : Option Moment := (text? node).bind Moment.parse

def TacticStatus.ofNode? (node : ν) : Option TacticStatus := (word? node).bind ofWord?

def TacticReport.ofNode? (node : ν) : Option (TacticReport ChangeRecord) := do
  let fields ←
    fields ["name", "status", "start_time", "end_time", "passed", "bad_state_alert", "attempts",
      "successes", "failures", "strike_results"] node
  let name ← fields.required "name" text?
  let status ← fields.defaulted "status" .notStarted TacticStatus.ofNode?
  let startTime ← fields.optional "start_time" moment?
  let endTime ← fields.optional "end_time" moment?
  let passed ← fields.required "passed" flag?
  let badStateAlert ← fields.required "bad_state_alert" flag?
  let attempts ← fields.required "attempts" count?
  let successes ← fields.required "successes" count?
  let failures ← fields.required "failures" count?
  let strikeResults ← fields.defaulted "strike_results" {} (dict StrikeReport.ofNode?)
  some { name, status, startTime, endTime, passed, badStateAlert, attempts, successes, failures,
         strikeResults }

end Raid
