import Raid.Proofs.Document.Deciding
import Raid.Proofs.Moment
import Raid.Proofs.Results.Restoring

/-!
Files of results bring back what was written. The tactic that is loaded from the file of a tactic
tells what that tactic told when it was written, in either format; only of its changes the functions
and the target are gone, and the text of a recorded error stands in a new error.
-/

namespace Raid

open Act

section

variable {χ ψ ω : Type} (f : χ → ψ) (g : ψ → ω)

theorem MovementReport.map_map (report : MovementReport χ) :
    (report.map f).map g = report.map fun change => g (f change) := by
  simp [map, Dict.map_map]

theorem StrikeReport.map_map (report : StrikeReport χ) :
    (report.map f).map g = report.map fun change => g (f change) := by
  simp [map, Dict.map_map, MovementReport.map_map]

theorem TacticReport.map_map (report : TacticReport χ) :
    (report.map f).map g = report.map fun change => g (f change) := by
  simp [map, Dict.map_map, StrikeReport.map_map]

/-- It does not matter how the changes are given when the values of the movements are put in order. -/
theorem TacticReport.ordered_map (report : TacticReport χ) :
    (report.map f).ordered = report.ordered.map f := by
  simp [map, ordered, Dict.map_map, StrikeReport.map, StrikeReport.ordered, MovementReport.map,
    MovementReport.ordered]

theorem Tactic.map_reportWith (tactic : Tactic) (look : Ref Change → χ) :
    (tactic.reportWith look).map f = tactic.reportWith fun ref => f (look ref) := by
  simp [reportWith, TacticReport.map, Dict.map_map, StrikeReport.map_map]

end

namespace Tactic

structure Proper (tactic : Tactic) : Prop where
  attempts : tactic.attempts < Nat.pow 2 32
  successes : tactic.successes < Nat.pow 2 32
  failures : tactic.failures < Nat.pow 2 32
  startTime : ∀ moment, tactic.startTime = some moment → moment.Proper
  endTime : ∀ moment, tactic.endTime = some moment → moment.Proper

theorem Proper.readable {tactic : Tactic} (proper : tactic.Proper) (world : World) :
    (tactic.record world).Readable where
  attempts := proper.attempts
  successes := proper.successes
  failures := proper.failures
  startTime moment begins := Moment.parse_text (proper.startTime moment begins)
  endTime moment ends := Moment.parse_text (proper.endTime moment ends)

end Tactic

/-- What is left of a change in a file: how far it has come, without functions and target. Of an
error the text is left, as the reason why the change is inert. -/
def Change.reloaded (change : Change) : Change :=
  { name := change.name, description := change.description, applied := change.applied
    reverted := change.reverted, badState := change.badState
    lastError := change.lastError.map fun error => .inert change.name error.message }

theorem Change.toChange_record (change : Change) : change.record.toChange = change.reloaded := by
  simp [record, ChangeRecord.toChange, reloaded, Option.map_map, Function.comp_def]

/-- What is left of a tactic in a file. The members of values of free form are put in order. -/
def Tactic.reloaded (tactic : Tactic) (world : World) : TacticReport Change :=
  (tactic.reportWith fun ref => (world.change ref).reloaded).ordered

theorem Tactic.reloaded_eq (tactic : Tactic) (world : World) :
    (tactic.record world).ordered.map ChangeRecord.toChange = tactic.reloaded world := by
  calc
    (tactic.record world).ordered.map ChangeRecord.toChange
      = ((tactic.record world).map ChangeRecord.toChange).ordered :=
        (TacticReport.ordered_map _ _).symm
    _ = tactic.reloaded world := by
        simp only [reloaded, record, map_reportWith, Change.toChange_record]

def World.Loads (world : World) (path : String) (told : TacticReport Change) : Prop :=
  ∃ loaded after, loadTactic path world = (.done (.ok loaded), after) ∧
    after.files = world.files ∧ loaded.reportWith after.change = told

theorem World.loads_of_stored {world : World} {path : String} {format : OutputFormat}
    {report : TacticReport ChangeRecord} (stored : world.files.Stored path (report.fileText format))
    (reads : OutputFormat.ofPath path = format) (readable : report.Readable)
    (back : format.ReadsBack report.toJson) :
    world.Loads path (report.ordered.map ChangeRecord.toChange) := by
  obtain ⟨tactic, after, restored, files, told⟩ := report.ordered.restored_reports world
  have read : readRecord world.files path = .ok report.ordered := by
    rw [readRecord, stored.read, reads]
    simp only [TacticReport.ofFileText?_fileText readable back]
  refine ⟨tactic, after, ?_, files, told⟩
  simp only [loadTactic, bind_apply, read_apply, read, restored, pure_apply]

theorem Wrote.loads {directory service path : String} {tactic : Tactic} {format : OutputFormat}
    {world after : World} (wrote : Wrote directory service tactic format world (.ok path) after)
    (proper : tactic.Proper) (back : format.ReadsBack (tactic.record world).toJson) :
    after.Loads path (tactic.reloaded world) := by
  obtain ⟨named, stored⟩ := wrote.stored_own
  rw [← tactic.reloaded_eq world]
  exact World.loads_of_stored stored (resultsPath_named named).reads (proper.readable world) back

/-- The files of one tactic in two formats lie side by side. -/
theorem path_ne_of_format {directory service name path path' : String} {format format' : OutputFormat}
    (named : resultsPath directory service name format = .ok path)
    (named' : resultsPath directory service name format' = .ok path') (different : format' ≠ format) :
    path' ≠ path := by
  rintro rfl
  exact different ((resultsPath_named named').reads.symm.trans (resultsPath_named named).reads)

theorem Wrote.reloaded {directory service : String} {tactic : Tactic} {format : OutputFormat}
    {world after : World} {written : Except ResultsError String}
    (wrote : Wrote directory service tactic format world written after) (other : Tactic) :
    other.record after = other.record world ∧ other.reloaded after = other.reloaded world := by
  rw [wrote.eq_files]
  exact ⟨rfl, rfl⟩

/-- Results files bring back what was written. Whatever the format, the file that was written of a
tactic loads as a tactic that tells the same, its changes without their functions; when the file in
the other format is written next, both files load as the same. -/
theorem loadTactic_writeTactic {tactic : Tactic} {world : World} (proper : tactic.Proper) :
    (∀ format : OutputFormat, format.ReadsBack (tactic.record world).toJson →
      ∀ directory service path after,
        writeTactic directory service tactic format world = (.done (.ok path), after) →
          after.Loads path (tactic.reloaded world)) ∧
    (OutputFormat.json.ReadsBack (tactic.record world).toJson →
      OutputFormat.yaml.ReadsBack (tactic.record world).toJson →
        ∀ directory service jsonPath yamlPath middle after,
          writeTactic directory service tactic .json world = (.done (.ok jsonPath), middle) →
            writeTactic directory service tactic .yaml middle = (.done (.ok yamlPath), after) →
              after.Loads jsonPath (tactic.reloaded world) ∧
                after.Loads yamlPath (tactic.reloaded world)) := by
  constructor
  · intro format back directory service path after run
    exact (Wrote.of_writeTactic run).loads proper back
  · intro jsonBack yamlBack directory service jsonPath yamlPath middle after jsonRun yamlRun
    have first := Wrote.of_writeTactic jsonRun
    have second := Wrote.of_writeTactic yamlRun
    obtain ⟨record, reloaded⟩ := first.reloaded tactic
    obtain ⟨jsonNamed, jsonStored⟩ := first.stored_own
    obtain ⟨yamlNamed, -⟩ := second.stored_own
    constructor
    · have apart := path_ne_of_format jsonNamed yamlNamed (by decide)
      have stored := second.stored jsonStored fun path' same => by
        cases same
        exact home_ne_of_resultsPath jsonNamed yamlNamed apart _
      rw [← tactic.reloaded_eq world]
      exact World.loads_of_stored stored (resultsPath_named jsonNamed).reads
        (proper.readable world) jsonBack
    · rw [← reloaded]
      exact second.loads proper (record ▸ yamlBack)

/-- A text of YAML is read back if its document is found to mirror the value. -/
theorem OutputFormat.readsBack_yaml {value : Json} {text : String} (printed : Yaml.print value = text)
    (read : (Yaml.Node.parse text).any (Document.mirrors value) = true) :
    OutputFormat.yaml.ReadsBack value := by
  obtain ⟨node, parsed, mirrors⟩ := (Option.any_eq_true _ _).mp read
  exact ⟨node, printed ▸ parsed, (Document.mirrors_iff value node).mp mirrors⟩

namespace Tactic

def eventfulWorld : World :=
  { changes := (Table.add {} ({ name := "c", description := "d", badState := true
                                lastError := some (.applyFailed "c" "refused") } : Change)).2 }

/-- A tactic with one strike, whose movement tried the change, and which it left in bad state. -/
def eventful : Tactic :=
  { name := "t", status := .haltedBadState, startTime := some ⟨1700000000, 5000000⟩
    endTime := some ⟨1700000060, 0⟩, attempts := 1, failures := 1, badStateAlert := true
    strikeResults := Dict.empty.insert "s" { report := {
      message := badStateMessage, badStateAlert := true, controlId := "c-1"
      movements := Dict.empty.insert "m" {
        functionName := "m", value := .list [.nat 1], changes := Dict.empty.insert "c" ⟨0⟩ } } }
    context := { ledger := ⟨0⟩ }, executed := ⟨0⟩ }

def untouched : Tactic := { name := "t", context := { ledger := ⟨0⟩ }, executed := ⟨0⟩ }

theorem eventful_proper : eventful.Proper where
  attempts := by decide
  successes := by decide
  failures := by decide
  startTime _ begins := by
    cases begins
    decide
  endTime _ ends := by
    cases ends
    decide

theorem untouched_proper : untouched.Proper where
  attempts := by decide
  successes := by decide
  failures := by decide
  startTime _ begins := by cases begins
  endTime _ ends := by cases ends

theorem eventful_written : writeTactic "out" "svc" eventful .json eventfulWorld =
    (.done (.ok "out/svc/t.json"), (writeTactic "out" "svc" eventful .json eventfulWorld).2) := by
  have written : (writeTactic "out" "svc" eventful .json eventfulWorld).1 =
      .done (.ok "out/svc/t.json") := by decide +kernel
  exact Prod.ext written rfl

theorem loadTactic_writeTactic_eventful :
    (∃ path after,
      writeTactic "out" "svc" eventful .json eventfulWorld = (.done (.ok path), after) ∧
        after.Loads path (eventful.reloaded eventfulWorld)) ∧
    ∃ jsonPath yamlPath middle after,
      writeTactic "out" "svc" untouched .json {} = (.done (.ok jsonPath), middle) ∧
        writeTactic "out" "svc" untouched .yaml middle = (.done (.ok yamlPath), after) ∧
          after.Loads jsonPath (untouched.reloaded {}) ∧
            after.Loads yamlPath (untouched.reloaded {}) := by
  have jsonBack : OutputFormat.json.ReadsBack (untouched.record {}).toJson :=
    OutputFormat.readsBack_json (by decide +kernel)
  have printed : Yaml.print (untouched.record {}).toJson =
      "name: t\nstatus: not_started\nstart_time: null\nend_time: null\npassed: false\n" ++
        "bad_state_alert: false\nattempts: 0\nsuccesses: 0\nfailures: 0\nstrike_results: \x7b\x7d\n" := by
    decide +kernel
  have yamlBack := OutputFormat.readsBack_yaml printed (by decide +kernel)
  have json : (writeTactic "out" "svc" untouched .json {}).1 = .done (.ok "out/svc/t.json") := by
    decide +kernel
  have yaml : (writeTactic "out" "svc" untouched .yaml
      (writeTactic "out" "svc" untouched .json {}).2).1 = .done (.ok "out/svc/t.yaml") := by
    decide +kernel
  obtain ⟨middle, jsonRun⟩ : ∃ middle, writeTactic "out" "svc" untouched .json {} =
      (.done (.ok "out/svc/t.json"), middle) := ⟨_, Prod.ext json rfl⟩
  rw [jsonRun] at yaml
  obtain ⟨after, yamlRun⟩ : ∃ after, writeTactic "out" "svc" untouched .yaml middle =
      (.done (.ok "out/svc/t.yaml"), after) := ⟨_, Prod.ext yaml rfl⟩
  exact ⟨⟨_, _, eventful_written, (loadTactic_writeTactic eventful_proper).1 .json
    (OutputFormat.readsBack_json (by decide +kernel)) _ _ _ _ eventful_written⟩,
    _, _, middle, after, jsonRun, yamlRun,
    (loadTactic_writeTactic untouched_proper).2 jsonBack yamlBack _ _ _ _ _ _ jsonRun yamlRun⟩

end Tactic

end Raid
