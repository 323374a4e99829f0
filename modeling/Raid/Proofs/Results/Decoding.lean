import Raid.Proofs.Document.Mirroring
import Raid.Results.Decoding

/-!
Records that were written are read back: from a document that mirrors what was written, every part of
a record is read as it was, but for values of free form, whose members are put in order.
-/

namespace Raid

open Document DocumentNode

variable {ν : Type} [DocumentNode ν] {node : ν}

theorem ChangeRecord.ofNode?_toJson {record : ChangeRecord} (mirrors : Mirrors record.toJson node) :
    ChangeRecord.ofNode? node = some record := by
  obtain ⟨found, read, mirror⟩ := fields_of_mirrors
    ["name", "description", "applied", "reverted", "bad_state", "error"] mirrors
    (by cases record.error <;> simp [field]) (by cases record.error <;> simp [field])
  have name : found.required "name" text? = some record.name :=
    mirror.required (by simp [valueAt?, field]) fun _ mirrors => mirrors.text
  have description : found.defaulted "description" "" text? = some record.description :=
    mirror.given (by simp [valueAt?, field]) fun _ mirrors => mirrors.text
  have applied : found.required "applied" flag? = some record.applied :=
    mirror.required (by simp [valueAt?, field]) fun _ mirrors => mirrors.flag
  have reverted : found.required "reverted" flag? = some record.reverted :=
    mirror.required (by simp [valueAt?, field]) fun _ mirrors => mirrors.flag
  have badState : found.defaulted "bad_state" false flag? = some record.badState :=
    mirror.given (by simp [valueAt?, field]) fun _ mirrors => mirrors.flag
  have error : found.nullable "error" text? = some record.error := by
    cases given : record.error with
    | none => exact mirror.nullable_missing (by simp [valueAt?, field, given])
    | some error =>
      exact (mirror.given_text (by simp [valueAt?, field, given]) fun _ mirrors => mirrors.text).2
  simp [ofNode?, read, name, description, applied, reverted, badState, error]

def MovementReport.ordered {χ : Type} (report : MovementReport χ) : MovementReport χ :=
  { report with value := report.value.normal }

theorem MovementReport.ofNode?_toJson {report : MovementReport ChangeRecord}
    (mirrors : Mirrors report.toJson node) :
    MovementReport.ofNode? node = some report.ordered := by
  obtain ⟨found, read, mirror⟩ := fields_of_mirrors
    ["passed", "description", "message", "function_name", "value", "changes"] mirrors
    (by cases report.value.isNull <;> cases report.changes.isEmpty <;> simp [field, optionalField])
    (by cases report.value.isNull <;> cases report.changes.isEmpty <;> simp [field, optionalField])
  have passed : found.required "passed" flag? = some report.passed :=
    mirror.required (by simp [valueAt?, field]) fun _ mirrors => mirrors.flag
  have description : found.required "description" text? = some report.description :=
    mirror.required (by simp [valueAt?, field]) fun _ mirrors => mirrors.text
  have message : found.required "message" text? = some report.message :=
    mirror.required (by simp [valueAt?, field]) fun _ mirrors => mirrors.text
  have functionName : found.defaulted "function_name" "" text? = some report.functionName :=
    mirror.given (by simp [valueAt?, field]) fun _ mirrors => mirrors.text
  have value : found.defaulted "value" .null json? = some report.value.normal := by
    refine mirror.defaulted report.value.isNull report.value ?_ ?_ fun _ mirrors => mirrors.json
    · cases report.value.isNull <;> cases report.changes.isEmpty <;>
        simp [valueAt?, field, optionalField]
    · cases report.value <;> simp [Json.isNull, Json.normal]
  have changes : found.defaulted "changes" {} (dict ChangeRecord.ofNode?) =
      some report.changes := by
    refine mirror.defaulted report.changes.isEmpty
      (.object (report.changes.map ChangeRecord.toJson).entries) ?_ Dict.eq_empty
      fun _ mirrors => ?_
    · cases report.value.isNull <;> cases report.changes.isEmpty <;>
        simp [valueAt?, field, optionalField]
    · rw [dict_of_mirrors (g := id) mirrors fun _ _ _ => ChangeRecord.ofNode?_toJson, Dict.map_id]
  simp [ofNode?, read, passed, description, message, functionName, value, changes, ordered]

def StrikeReport.ordered {χ : Type} (report : StrikeReport χ) : StrikeReport χ :=
  { report with movements := report.movements.map MovementReport.ordered }

theorem StrikeReport.ofNode?_toJson {report : StrikeReport ChangeRecord}
    (mirrors : Mirrors report.toJson node) :
    StrikeReport.ofNode? node = some report.ordered := by
  obtain ⟨found, read, mirror⟩ := fields_of_mirrors
    ["passed", "description", "message", "docs_url", "control_id", "movements",
      "bad_state_alert"] mirrors
    (by cases report.docsUrl.isEmpty <;> cases report.controlId.isEmpty <;>
      simp [field, optionalField])
    (by cases report.docsUrl.isEmpty <;> cases report.controlId.isEmpty <;>
      simp [field, optionalField])
  have passed : found.required "passed" flag? = some report.passed :=
    mirror.required (by simp [valueAt?, field]) fun _ mirrors => mirrors.flag
  have description : found.required "description" text? = some report.description :=
    mirror.required (by simp [valueAt?, field]) fun _ mirrors => mirrors.text
  have message : found.required "message" text? = some report.message :=
    mirror.required (by simp [valueAt?, field]) fun _ mirrors => mirrors.text
  have docsUrl : found.defaulted "docs_url" "" text? = some report.docsUrl := by
    refine mirror.defaulted report.docsUrl.isEmpty (.text report.docsUrl) ?_ (by simp)
      fun _ mirrors => mirrors.text
    cases report.docsUrl.isEmpty <;> cases report.controlId.isEmpty <;>
      simp [valueAt?, field, optionalField]
  have controlId : found.defaulted "control_id" "" text? = some report.controlId := by
    refine mirror.defaulted report.controlId.isEmpty (.text report.controlId) ?_ (by simp)
      fun _ mirrors => mirrors.text
    cases report.docsUrl.isEmpty <;> cases report.controlId.isEmpty <;>
      simp [valueAt?, field, optionalField]
  have movements : found.defaulted "movements" {} (dict MovementReport.ofNode?) =
      some (report.movements.map MovementReport.ordered) := by
    refine mirror.given ?_ fun _ mirrors =>
      dict_of_mirrors mirrors fun _ _ _ => MovementReport.ofNode?_toJson
    cases report.docsUrl.isEmpty <;> cases report.controlId.isEmpty <;>
      simp [valueAt?, field, optionalField]
  have badStateAlert : found.defaulted "bad_state_alert" false flag? =
      some report.badStateAlert := by
    refine mirror.given ?_ fun _ mirrors => mirrors.flag
    cases report.docsUrl.isEmpty <;> cases report.controlId.isEmpty <;>
      simp [valueAt?, field, optionalField]
  simp [ofNode?, read, passed, description, message, docsUrl, controlId, movements, badStateAlert,
    ordered]

def TacticReport.ordered {χ : Type} (report : TacticReport χ) : TacticReport χ :=
  { report with strikeResults := report.strikeResults.map StrikeReport.ordered }

structure TacticReport.Readable {χ : Type} (report : TacticReport χ) : Prop where
  attempts : report.attempts < Nat.pow 2 32
  successes : report.successes < Nat.pow 2 32
  failures : report.failures < Nat.pow 2 32
  startTime : ∀ moment, report.startTime = some moment → Moment.parse moment.text = some moment
  endTime : ∀ moment, report.endTime = some moment → Moment.parse moment.text = some moment

theorem count?_of_mirrors {count : Nat} (mirrors : Mirrors (.nat count) node)
    (small : count < Nat.pow 2 32) : count? node = some count := by
  simp [count?, mirrors.natural, small]

theorem Document.Fields.Mirror.time {members : List (String × Json)} {found : Fields ν}
    (mirror : found.Mirror members) {key : String} {time : Option Moment}
    (given : valueAt? key members = some (timeJson time))
    (legible : ∀ moment, time = some moment → Moment.parse moment.text = some moment) :
    found.optional key moment? = some time := by
  cases time with
  | none => exact mirror.optional_null given
  | some moment =>
    refine (mirror.given_text given fun node mirrors => ?_).1
    simp [moment?, mirrors.text, legible moment rfl]

theorem TacticStatus.ofNode?_of_mirrors {status : TacticStatus}
    (mirrors : Mirrors (.text status.word) node) : TacticStatus.ofNode? node = some status := by
  simp [ofNode?, mirrors.2.2.1, ofWord?_word]

theorem TacticReport.ofNode?_toJson {report : TacticReport ChangeRecord}
    (readable : report.Readable) (mirrors : Mirrors report.toJson node) :
    TacticReport.ofNode? node = some report.ordered := by
  obtain ⟨found, read, mirror⟩ := fields_of_mirrors
    ["name", "status", "start_time", "end_time", "passed", "bad_state_alert", "attempts",
      "successes", "failures", "strike_results"] mirrors (by simp [field]) (by simp [field])
  have name : found.required "name" text? = some report.name :=
    mirror.required (by simp [valueAt?, field]) fun _ mirrors => mirrors.text
  have status : found.defaulted "status" .notStarted TacticStatus.ofNode? = some report.status :=
    mirror.given (by simp [valueAt?, field]) fun _ => TacticStatus.ofNode?_of_mirrors
  have startTime : found.optional "start_time" moment? = some report.startTime :=
    mirror.time (by simp [valueAt?, field]) readable.startTime
  have endTime : found.optional "end_time" moment? = some report.endTime :=
    mirror.time (by simp [valueAt?, field]) readable.endTime
  have passed : found.required "passed" flag? = some report.passed :=
    mirror.required (by simp [valueAt?, field]) fun _ mirrors => mirrors.flag
  have badStateAlert : found.required "bad_state_alert" flag? = some report.badStateAlert :=
    mirror.required (by simp [valueAt?, field]) fun _ mirrors => mirrors.flag
  have attempts : found.required "attempts" count? = some report.attempts :=
    mirror.required (by simp [valueAt?, field]) fun _ mirrors =>
      count?_of_mirrors mirrors readable.attempts
  have successes : found.required "successes" count? = some report.successes :=
    mirror.required (by simp [valueAt?, field]) fun _ mirrors =>
      count?_of_mirrors mirrors readable.successes
  have failures : found.required "failures" count? = some report.failures :=
    mirror.required (by simp [valueAt?, field]) fun _ mirrors =>
      count?_of_mirrors mirrors readable.failures
  have strikeResults : found.defaulted "strike_results" {} (dict StrikeReport.ofNode?) =
      some (report.strikeResults.map StrikeReport.ordered) :=
    mirror.given (by simp [valueAt?, field]) fun _ mirrors =>
      dict_of_mirrors mirrors fun _ _ _ => StrikeReport.ofNode?_toJson
  simp [ofNode?, read, name, status, startTime, endTime, passed, badStateAlert, attempts, successes,
    failures, strikeResults, ordered]

end Raid
