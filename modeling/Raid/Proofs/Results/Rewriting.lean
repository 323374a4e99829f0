import Mathlib.Logic.Function.Iterate
import Raid.Proofs.Results.Reloading

/-!
Results that are loaded and written again, any number of times. The file is written where it was,
and its text stays the same but for the errors of changes: the text of a recorded error comes back
as the reason why a change is inert, and so every cycle puts one more sentence in front of it.
-/

namespace Raid

open Act

def rewriteTactic (directory service path : String) (format : OutputFormat) :
    Task (Except ResultsError String) := do
  match ← loadTactic path with
  | .error error => pure (.error error)
  | .ok tactic => writeTactic directory service tactic format

def rewriteTimes (directory service path : String) (format : OutputFormat) :
    Nat → Task (Except ResultsError String)
  | 0 => pure (.ok path)
  | times + 1 => do
    match ← rewriteTactic directory service path format with
    | .error error => pure (.error error)
    | .ok path => rewriteTimes directory service path format times

def ChangeRecord.rewritten (record : ChangeRecord) : ChangeRecord := record.toChange.record

theorem ChangeRecord.rewritten_eq (record : ChangeRecord) :
    record.rewritten = { record with
      error := record.error.map fun text => (ChangeError.inert record.name text).message } := by
  simp [rewritten, toChange, Change.record, Option.map_map, Function.comp_def]

/-- The sentence about an inert change is longer than the text that it ends in. -/
theorem ChangeError.inert_message_ne (name text : String) :
    (ChangeError.inert name text).message ≠ text := by
  intro same
  have longer : ("change " ++ name ++ " is inert after an unrecoverable error: " ++ text).length =
      text.length := congrArg String.length same
  rw [String.length_append, String.length_append, String.length_append] at longer
  have filled : 0 < "change ".length := by decide
  generalize "change ".length = first at longer filled
  omega

/-- A record stays the same just when it tells of no error. -/
theorem ChangeRecord.rewritten_eq_self {record : ChangeRecord} :
    record.rewritten = record ↔ record.error = none := by
  rw [rewritten_eq]
  constructor
  · intro same
    by_contra told
    obtain ⟨text, given⟩ := Option.ne_none_iff_exists'.mp told
    have own := congrArg ChangeRecord.error same
    rw [given] at own
    exact ChangeError.inert_message_ne record.name text (Option.some.inj own)
  · intro none
    rw [none]
    cases record
    cases none
    rfl

section

variable {χ : Type} {f : χ → χ}

theorem MovementReport.map_eq_self {report : MovementReport χ} :
    report.map f = report ↔ ∀ change ∈ report.changes.values, f change = change := by
  rw [← Dict.map_eq_self]
  constructor
  · exact fun same => congrArg MovementReport.changes same
  · intro same
    rw [map, same]

theorem StrikeReport.map_eq_self {report : StrikeReport χ} :
    report.map f = report ↔ ∀ change ∈ report.changes, f change = change := by
  have movements : report.map f = report ↔ report.movements.map (MovementReport.map f) = report.movements := by
    constructor
    · exact fun same => congrArg StrikeReport.movements same
    · intro same
      rw [map, same]
  simp only [movements, Dict.map_eq_self, MovementReport.map_eq_self, changes, List.forall_mem_flatMap]

def TacticReport.changes (report : TacticReport χ) : List χ :=
  report.strikeResults.values.flatMap StrikeReport.changes

theorem TacticReport.map_eq_self {report : TacticReport χ} :
    report.map f = report ↔ ∀ change ∈ report.changes, f change = change := by
  have strikes : report.map f = report ↔
      report.strikeResults.map (StrikeReport.map f) = report.strikeResults := by
    constructor
    · exact fun same => congrArg TacticReport.strikeResults same
    · intro same
      rw [map, same]
  simp only [strikes, Dict.map_eq_self, StrikeReport.map_eq_self, changes, List.forall_mem_flatMap]

end

def TacticReport.rewritten (report : TacticReport ChangeRecord) : TacticReport ChangeRecord :=
  report.map ChangeRecord.rewritten

structure World.HoldsRecord (world : World) (directory service path : String) (format : OutputFormat)
    (report : TacticReport ChangeRecord) : Prop where
  named : resultsPath directory service report.name format = .ok path
  standing : world.files.Standing path
  stored : world.files.Stored path (report.fileText format)

section

variable {directory service path : String} {format : OutputFormat} {world after : World}
  {tactic : Tactic} {report : TacticReport ChangeRecord}

theorem Wrote.holds (wrote : Wrote directory service tactic format world (.ok path) after) :
    after.HoldsRecord directory service path format (tactic.record world) := by
  obtain ⟨named, stored⟩ := wrote.stored_own
  cases wrote with
  | written event _ made written =>
    exact ⟨named, FileTree.standing_of_write made written, stored⟩

theorem writeTactic_standing
    (named : resultsPath directory service tactic.name format = .ok path)
    (standing : world.files.Standing path) : ∃ after,
      writeTactic directory service tactic format world = (.done (.ok path), after) := by
  obtain ⟨written, after, run, wrote⟩ := writeTactic_cases directory service tactic format world
  have idle := FileTree.makeDirectories_idle standing.above
  cases wrote with
  | unnamed refused => simp [named] at refused
  | uncreated named' refused =>
    cases named.symm.trans named'
    simp [idle] at refused
  | unwritten named' made refused =>
    cases named.symm.trans named'
    cases idle.symm.trans made
    obtain ⟨filled, fine⟩ := standing.write (tactic.text format world)
    simp [fine] at refused
  | written event named' made written =>
    cases named.symm.trans named'
    exact ⟨_, run⟩

/-- One cycle puts the record of the loaded tactic in the place of the record. -/
theorem rewriteTactic_holds (holds : world.HoldsRecord directory service path format report)
    (readable : report.Readable) (inOrder : report.ordered = report)
    (back : format.ReadsBack report.toJson) : ∃ after,
      rewriteTactic directory service path format world = (.done (.ok path), after) ∧
        after.HoldsRecord directory service path format report.rewritten := by
  obtain ⟨named, standing, stored⟩ := holds
  obtain ⟨tactic, middle, load, files, told⟩ :=
    World.loads_of_stored stored (resultsPath_named named).reads readable back
  rw [inOrder] at told
  have record : tactic.record middle = report.rewritten := by
    calc
      tactic.record middle = (tactic.reportWith middle.change).map Change.record :=
        (tactic.map_reportWith _ _).symm
      _ = report.rewritten := by
        rw [told, TacticReport.map_map]
        rfl
  have name : tactic.name = report.name := congrArg TacticReport.name told
  obtain ⟨after, run⟩ := writeTactic_standing (by rw [name, named]) (files ▸ standing)
  refine ⟨after, ?_, record ▸ (Wrote.of_writeTactic run).holds⟩
  simp only [rewriteTactic, bind_apply, load, run]

theorem TacticReport.rewritten_readable (readable : report.Readable) : report.rewritten.Readable :=
  { readable with }

theorem TacticReport.rewritten_inOrder (inOrder : report.ordered = report) :
    report.rewritten.ordered = report.rewritten := by
  rw [rewritten, ordered_map, inOrder]

/-- After any number of cycles the file holds the record of the tactic that was loaded last. -/
theorem rewriteTimes_holds (times : Nat) (holds : world.HoldsRecord directory service path format report)
    (readable : report.Readable) (inOrder : report.ordered = report)
    (back : ∀ times, format.ReadsBack (TacticReport.rewritten^[times] report).toJson) : ∃ after,
      rewriteTimes directory service path format times world = (.done (.ok path), after) ∧
        after.HoldsRecord directory service path format (TacticReport.rewritten^[times] report) := by
  induction times generalizing world report with
  | zero => exact ⟨world, rfl, holds⟩
  | succ times ih =>
    obtain ⟨middle, first, holds'⟩ := rewriteTactic_holds holds readable inOrder (back 0)
    obtain ⟨after, rest, last⟩ := ih holds' (TacticReport.rewritten_readable readable)
      (TacticReport.rewritten_inOrder inOrder) fun times => back (times + 1)
    refine ⟨after, ?_, last⟩
    simp only [rewriteTimes, bind_apply, first, rest]

/-- Records in order that are written the same are the same. -/
theorem TacticReport.eq_of_fileText {other : TacticReport ChangeRecord}
    (readable : report.Readable) (readable' : other.Readable) (inOrder : report.ordered = report)
    (inOrder' : other.ordered = other) (back : format.ReadsBack report.toJson)
    (back' : format.ReadsBack other.toJson)
    (same : report.fileText format = other.fileText format) : report = other := by
  have read := ofFileText?_fileText readable back
  rw [same, ofFileText?_fileText readable' back', inOrder, inOrder'] at read
  exact (Option.some.inj read).symm

end

theorem StrikeReport.changes_map {χ ψ : Type} (f : χ → ψ) (report : StrikeReport χ) :
    (report.map f).changes = report.changes.map f := by
  simp [changes, map, MovementReport.map, Dict.values, Dict.map, List.flatMap_map, List.map_flatMap,
    Function.comp_def]

theorem TacticReport.changes_map {χ ψ : Type} (f : χ → ψ) (report : TacticReport χ) :
    (report.map f).changes = report.changes.map f := by
  simp [changes, map, Dict.values, Dict.map, List.flatMap_map, List.map_flatMap,
    StrikeReport.changes_map]

namespace Tactic

variable {tactic : Tactic} {world : World}

/-- The record of a tactic stays the same just when none of its changes has recorded an error. -/
theorem rewritten_record_eq_self : (tactic.record world).rewritten = tactic.record world ↔
    ∀ change ∈ (tactic.reportWith world.change).changes, change.lastError = none := by
  have record : tactic.record world = (tactic.reportWith world.change).map Change.record :=
    (tactic.map_reportWith _ _).symm
  rw [TacticReport.rewritten, TacticReport.map_eq_self, record, TacticReport.changes_map,
    List.forall_mem_map]
  simp only [ChangeRecord.rewritten_eq_self, Change.record, Option.map_eq_none_iff]

/-- Writing a tactic and then loading and writing it again, any number of times, always succeeds and
writes to the same file. What the file holds after so many cycles is the record that was written
first, with the sentence about inert changes put that often in front of the text of each error. So
the file never changes if no change of the tactic has recorded an error, and only then. -/
theorem rewriteTimes_writeTactic {directory service path : String} {format : OutputFormat}
    {after : World}
    (run : writeTactic directory service tactic format world = (.done (.ok path), after))
    (proper : tactic.Proper) (inOrder : (tactic.record world).ordered = tactic.record world)
    (back : ∀ times, format.ReadsBack
      (TacticReport.rewritten^[times] (tactic.record world)).toJson) :
    (∀ times, ∃ final,
      rewriteTimes directory service path format times after = (.done (.ok path), final) ∧
        final.files.read path =
          .ok ((TacticReport.rewritten^[times] (tactic.record world)).fileText format)) ∧
    ((∀ times final,
      rewriteTimes directory service path format times after = (.done (.ok path), final) →
        final.files.read path = after.files.read path) ↔
      ∀ change ∈ (tactic.reportWith world.change).changes, change.lastError = none) := by
  have holds := (Wrote.of_writeTactic run).holds
  have readable := proper.readable world
  have cycles (times : Nat) : ∃ final,
      rewriteTimes directory service path format times after = (.done (.ok path), final) ∧
        final.files.read path =
          .ok ((TacticReport.rewritten^[times] (tactic.record world)).fileText format) := by
    obtain ⟨final, again, last⟩ := rewriteTimes_holds times holds readable inOrder back
    exact ⟨final, again, last.stored.read⟩
  refine ⟨cycles, ?_⟩
  rw [← rewritten_record_eq_self, holds.stored.read]
  constructor
  · intro same
    obtain ⟨final, again, read⟩ := cycles 1
    have text := Except.ok.inj (read.symm.trans (same 1 final again))
    exact TacticReport.eq_of_fileText (TacticReport.rewritten_readable readable) readable
      (TacticReport.rewritten_inOrder inOrder) inOrder (back 1) (back 0) text
  · intro same times final again
    obtain ⟨final', again', read⟩ := cycles times
    cases again.symm.trans again'
    rw [read, Function.iterate_fixed same times]

/-- The records that become of the eventful tactic differ in the text of its error alone. -/
theorem rewritten_eventful (times : Nat) : ∃ error,
    TacticReport.rewritten^[times] (eventful.record eventfulWorld) =
      eventful.reportWith fun _ => ⟨"c", "d", false, false, true, some error⟩ := by
  induction times with
  | zero => exact ⟨(ChangeError.applyFailed "c" "refused").message, rfl⟩
  | succ times ih =>
    obtain ⟨error, same⟩ := ih
    exact ⟨(ChangeError.inert "c" error).message, by
      rw [Function.iterate_succ_apply', same]
      rfl⟩

theorem readsBack_eventful (times : Nat) : OutputFormat.json.ReadsBack
    (TacticReport.rewritten^[times] (eventful.record eventfulWorld)).toJson := by
  obtain ⟨error, same⟩ := rewritten_eventful times
  rw [same]
  exact OutputFormat.readsBack_json rfl

theorem rewriteTimes_writeTactic_eventful : ∃ path after,
    writeTactic "out" "svc" eventful .json eventfulWorld = (.done (.ok path), after) ∧
      ∀ times, ∃ final,
        rewriteTimes "out" "svc" path .json times after = (.done (.ok path), final) ∧
          final.files.read path = .ok
            ((TacticReport.rewritten^[times] (eventful.record eventfulWorld)).fileText .json) :=
  ⟨_, _, eventful_written,
    (rewriteTimes_writeTactic eventful_written eventful_proper rfl readsBack_eventful).1⟩

def Stable (tactic : Tactic) (world : World) (format : OutputFormat) : Prop :=
  ∀ directory service path after,
    writeTactic directory service tactic format world = (.done (.ok path), after) →
      ∃ final, rewriteTactic directory service path format after = (.done (.ok path), final) ∧
        final.files.read path = after.files.read path

/-- The results of the eventful tactic are read back as they were printed, and yet they change. -/
theorem eventful_not_stable :
    OutputFormat.json.ReadsBack (eventful.record eventfulWorld).toJson ∧
      ¬eventful.Stable eventfulWorld .json := by
  refine ⟨readsBack_eventful 0, fun stable => ?_⟩
  have readable := eventful_proper.readable eventfulWorld
  have inOrder : (eventful.record eventfulWorld).ordered = eventful.record eventfulWorld := rfl
  have holds := (Wrote.of_writeTactic eventful_written).holds
  obtain ⟨final, again, same⟩ := stable _ _ _ _ eventful_written
  obtain ⟨final', again', last⟩ :=
    rewriteTactic_holds holds readable inOrder (readsBack_eventful 0)
  cases again.symm.trans again'
  rw [last.stored.read, holds.stored.read] at same
  have records := TacticReport.eq_of_fileText (TacticReport.rewritten_readable readable) readable
    (TacticReport.rewritten_inOrder inOrder) inOrder (readsBack_eventful 1) (readsBack_eventful 0)
    (Except.ok.inj same)
  have made : (eventful.reportWith eventfulWorld.change).changes = [eventfulWorld.change ⟨0⟩] := rfl
  have calm := rewritten_record_eq_self.mp records (eventfulWorld.change ⟨0⟩) (by simp [made])
  cases calm

end Tactic

end Raid
