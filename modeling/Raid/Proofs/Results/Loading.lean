import Raid.Proofs.Files.Storing
import Raid.Proofs.Json.RoundTrip
import Raid.Proofs.Results.Decoding
import Raid.Proofs.Results.Naming
import Raid.Proofs.Results.Writing

/-!
Loading the results of a tactic from the file that they were written to. Where the notation is read
back as it was printed, the tactic that is loaded has the name, the status, the times and the counts
of the one that was written.
-/

namespace Raid

open Act Document

namespace Act

variable {σ α β : Type}

def Finishes (work : Act σ α) : Prop := ∀ state, (work state).1.isDone = true

theorem Finishes.run {work : Act σ α} (finishes : Finishes work) (state : σ) :
    ∃ value after, work state = (.done value, after) := by
  obtain ⟨value, done⟩ := Outcome.isDone_iff.mp (finishes state)
  exact ⟨value, (work state).2, by rw [← done]⟩

theorem finishes_pure (value : α) : Finishes (pure value : Act σ α) := fun _ => rfl

theorem finishes_bind {work : Act σ α} {next : α → Act σ β} (first : Finishes work)
    (rest : ∀ value, Finishes (next value)) : Finishes (work >>= next) := by
  intro state
  obtain ⟨value, after, run⟩ := first.run state
  rw [bind_apply, run]
  exact rest value after

theorem finishes_forEach {ι : Type} {work : ι → Act σ α} (each : ∀ item, Finishes (work item))
    (items : List ι) : Finishes (forEach work items) := by
  induction items with
  | nil => exact finishes_pure []
  | cons item rest ih =>
    exact finishes_bind (each item) fun _ => finishes_bind ih fun _ => finishes_pure _

end Act

theorem Dict.finishes_forEachValue {α β : Type} {work : α → Task β}
    (each : ∀ value, Finishes (work value)) (dict : Dict α) : Finishes (dict.forEachValue work) :=
  finishes_bind (finishes_forEach (fun _ => finishes_bind (each _) fun _ => finishes_pure _) _)
    fun _ => finishes_pure _

theorem MovementReport.finishes_restored (report : MovementReport ChangeRecord) :
    Finishes report.restored :=
  finishes_bind (Dict.finishes_forEachValue (fun _ _ => rfl) _) fun _ => finishes_pure _

theorem StrikeReport.finishes_restored (report : StrikeReport ChangeRecord) :
    Finishes report.restored :=
  finishes_bind (Dict.finishes_forEachValue MovementReport.finishes_restored _) fun _ =>
    finishes_pure _

structure Tactic.Tells {χ : Type} (report : TacticReport χ) (tactic : Tactic) : Prop where
  name : tactic.name = report.name
  status : tactic.status = report.status
  startTime : tactic.startTime = report.startTime
  endTime : tactic.endTime = report.endTime
  passed : tactic.passed = report.passed
  badStateAlert : tactic.badStateAlert = report.badStateAlert
  attempts : tactic.attempts = report.attempts
  successes : tactic.successes = report.successes
  failures : tactic.failures = report.failures
  strikes : tactic.strikes = []

theorem TacticReport.restored_tells (report : TacticReport ChangeRecord) (world : World) :
    ∃ tactic after, report.restored world = (.done tactic, after) ∧ tactic.Tells report := by
  have results : Finishes (report.strikeResults.forEachValue fun strike => do
      pure ({ report := ← strike.restored } : StrikeResult)) :=
    Dict.finishes_forEachValue (fun strike =>
      finishes_bind strike.finishes_restored fun _ => finishes_pure _) _
  obtain ⟨strikeResults, after, run⟩ := results.run world
  simp only [restored, bind_apply, run]
  exact ⟨_, _, rfl, rfl, rfl, rfl, rfl, rfl, rfl, rfl, rfl, rfl, rfl⟩

/-- The text of the value is read back as a document that mirrors the value. -/
def OutputFormat.ReadsBack (value : Json) : OutputFormat → Prop
  | .json => ∃ node : Json, Json.parse (Json.pretty value) = some node ∧ Mirrors value node
  | .yaml => ∃ node : Yaml.Node, Yaml.Node.parse (Yaml.print value) = some node ∧
    Mirrors value node

theorem OutputFormat.readsBack_json {value : Json}
    (fine : value.fits Json.Reader.greatestDepth = true) : OutputFormat.json.ReadsBack value :=
  ⟨value, Json.parse_pretty fine, Document.mirrors_self value⟩

theorem TacticReport.ofFileText?_fileText {report : TacticReport ChangeRecord}
    {format : OutputFormat} (readable : report.Readable) (back : format.ReadsBack report.toJson) :
    ofFileText? (report.fileText format) format = some report.ordered := by
  cases format with
  | json =>
    obtain ⟨node, parsed, mirrors⟩ := back
    simp [ofFileText?, fileText, parsed, ofNode?_toJson readable mirrors]
  | yaml =>
    obtain ⟨node, parsed, mirrors⟩ := back
    simp [ofFileText?, fileText, parsed, ofNode?_toJson readable mirrors]

theorem loadTactic_of_stored {world : World} {path : String} {format : OutputFormat}
    {report : TacticReport ChangeRecord} (stored : world.files.Stored path (report.fileText format))
    (reads : OutputFormat.ofPath path = format) (readable : report.Readable)
    (back : format.ReadsBack report.toJson) :
    ∃ tactic after, loadTactic path world = (.done (.ok tactic), after) ∧ tactic.Tells report := by
  obtain ⟨tactic, after, restored, tells⟩ := report.ordered.restored_tells world
  have read : readRecord world.files path = .ok report.ordered := by
    rw [readRecord, stored.read, reads]
    simp only [TacticReport.ofFileText?_fileText readable back]
  refine ⟨tactic, after, ?_, ?_⟩
  · simp only [loadTactic, bind_apply, read_apply, read, restored, pure_apply]
  · obtain ⟨name, status, startTime, endTime, passed, alert, attempts, successes, failures, bare⟩ :=
      tells
    exact ⟨name, status, startTime, endTime, passed, alert, attempts, successes, failures, bare⟩

end Raid
