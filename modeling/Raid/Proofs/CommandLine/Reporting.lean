import Raid.CommandLine.Execution
import Raid.Proofs.Results.Loading
import Raid.Proofs.Tactic.Record

/-!
What a report tells of an execution. The printed report of a file of results is taken apart into a
verdict, a part for every strike and a line for every change; where the file was written after a
tactic had been executed, the verdict is the answer of the execution, and each line on a change
gives the state that the change was left in.
-/

namespace Raid.CommandLine

open Execution (execute Executed)

structure MovementPart where
  line : String
  changes : List (String × String)

structure StrikePart where
  mark : String
  name : String
  description : String
  notes : List String
  movements : List MovementPart

structure Page where
  name : String
  verdict : String
  notes : List String
  strikes : List StrikePart

def MovementPart.lines (part : MovementPart) : List String :=
  part.line :: part.changes.map fun change =>
    "           change " ++ change.1 ++ ": " ++ change.2

def StrikePart.lines (part : StrikePart) : List String :=
  ["  [" ++ part.mark ++ "] " ++ part.name ++ ": " ++ part.description] ++ part.notes ++
    part.movements.flatMap MovementPart.lines

def Page.text (page : Page) : String :=
  lines (["", "Tactic: " ++ page.name ++ " [" ++ page.verdict ++ "]"] ++ page.notes ++
    page.strikes.flatMap StrikePart.lines ++ [""])

def movementPart (name : String) (movement : MovementReport ChangeRecord) : MovementPart where
  line := "       - " ++ name ++ " (" ++ (if movement.passed then "pass" else "fail") ++ "): " ++
    movement.message
  changes := movement.changes.entries.map fun entry => (entry.1, changeState entry.2)

def strikePart (name : String) (strike : StrikeReport ChangeRecord) : StrikePart where
  mark := if strike.badStateAlert then "!!" else if strike.passed then "ok" else "xx"
  name := name
  description := strike.description
  notes := (if strike.controlId.isEmpty then [] else ["       control: " ++ strike.controlId]) ++
    ["       " ++ strike.message]
  movements := strike.movements.entries.map fun entry => movementPart entry.1 entry.2

def page (record : TacticReport ChangeRecord) : Page where
  name := record.name
  verdict :=
    if record.badStateAlert then "BAD STATE" else if record.passed then "PASSED" else "FAILED"
  notes := ["Status: " ++ record.status.text] ++ timeLines record.startTime record.endTime ++
    ["Strikes: " ++ toString record.attempts ++ " attempted, " ++ toString record.successes ++
      " passed, " ++ toString record.failures ++ " failed", ""]
  strikes := record.strikeResults.entries.map fun entry => strikePart entry.1 entry.2

theorem lines_movementPart (name : String) (movement : MovementReport ChangeRecord) :
    (movementPart name movement).lines = movementLines name movement := by
  simp only [movementPart, MovementPart.lines, movementLines, List.map_map]
  rfl

theorem lines_strikePart (name : String) (strike : StrikeReport ChangeRecord) :
    (strikePart name strike).lines = strikeLines name strike := by
  simp only [strikePart, StrikePart.lines, strikeLines, List.flatMap_map, lines_movementPart,
    List.append_assoc]

/-- The report of a record is the text of its page. -/
theorem reportText_eq (record : TacticReport ChangeRecord) :
    reportText record = (page record).text := by
  simp only [reportText, Page.text, page, List.flatMap_map, lines_strikePart, List.append_assoc,
    List.cons_append, List.nil_append]

/-- The order of what stands in values of free form is not printed. -/
theorem page_ordered (record : TacticReport ChangeRecord) : page record.ordered = page record := by
  simp only [page, TacticReport.ordered, StrikeReport.ordered, strikePart, movementPart,
    MovementReport.ordered, Dict.map, List.map_map, Function.comp_def]
  rfl

inductive Word (change : Change) : String → Prop
  | badState (bad : change.badState = true) : Word change "bad state"
  | reverted (fine : change.badState = false) (reverted : change.reverted = true) :
    Word change "reverted"
  | notApplied (fine : change.badState = false) (unreverted : change.reverted = false)
    (unapplied : change.applied = false) : Word change "not applied"

theorem word_of_settled {change : Change} (settled : change.Settled) :
    Word change (changeState change.record) := by
  unfold changeState
  by_cases bad : change.record.badState = true
  · rw [if_pos bad]
    exact .badState bad
  · have fine : change.badState = false := eq_false_of_ne_true bad
    rw [if_neg bad]
    by_cases reverted : change.record.reverted = true
    · rw [if_pos reverted]
      exact .reverted fine reverted
    · have unreverted : change.reverted = false := eq_false_of_ne_true reverted
      have idle : change.live = false := settled.resolve_left bad
      have unapplied : change.applied = false := by simpa [Change.live, unreverted] using idle
      have unapplied' : ¬change.record.applied = true := ne_true_of_eq_false unapplied
      rw [if_neg reverted, if_neg unapplied']
      exact .notApplied fine unreverted unapplied

theorem Word.ne_applied {change : Change} {word : String} (holds : Word change word) :
    word ≠ "applied" := by
  cases holds <;> decide

structure MovementPart.Tells (world : World) (movement : MovementReport (Ref Change))
    (part : MovementPart) : Prop where
  names : part.changes.map Prod.fst = movement.changes.keys
  words : ∀ name word, (name, word) ∈ part.changes →
    ∃ ref, movement.changes.get? name = some ref ∧ Word (world.change ref) word ∧ word ≠ "applied"

structure StrikePart.Tells (world : World) (strike : StrikeReport (Ref Change))
    (part : StrikePart) : Prop where
  mark : part.mark = "!!" ↔ strike.badStateAlert = true
  movements : List.Forall₂ (MovementPart.Tells world) strike.movements.values part.movements

/-- The page tells of an execution from this state that came to this answer: the verdict is that of
the answer, and there is one part for each name under which a body ran, in the order of the names. -/
structure Page.Tells (state : Execution) (answer : Except TacticError Unit) (page : Page) :
    Prop where
  name : page.name = state.tactic.name
  badState : page.verdict = "BAD STATE" ↔ answer = .error (.badState state.tactic.name)
  passed : page.verdict = "PASSED" ↔ answer = .ok ()
  failed : page.verdict = "FAILED" ↔
    ∃ succeeded attempted, answer = .error (.strikesFailed state.tactic.name succeeded attempted)
  ran : ∀ name, name ∈ page.strikes.map StrikePart.name ↔
    ∃ start ∈ state.started, start.strike.name = name
  sorted : (page.strikes.map StrikePart.name).Pairwise (· < ·)
  strikes : ∀ part ∈ page.strikes, ∃ kept,
    (execute state).2.tactic.strikeResults.get? part.name = some kept ∧
      part.Tells (execute state).2.world kept.report

section

variable {world : World}

theorem movementPart_tells (name : String) {movement : MovementReport (Ref Change)}
    (settled : ∀ ref ∈ movement.changes.values, (world.change ref).Settled) :
    (movementPart name (movement.map fun ref => (world.change ref).record)).Tells world
      movement where
  names := by
    simp only [movementPart, MovementReport.map, Dict.map, Dict.keys, List.map_map,
      Function.comp_def]
  words name word member := by
    simp only [movementPart, MovementReport.map, Dict.map, List.map_map, List.mem_map,
      Function.comp_def, Prod.mk.injEq, Prod.exists] at member
    obtain ⟨_, ref, entry, rfl, rfl⟩ := member
    have found : movement.changes.get? _ = some ref := Dict.mem_entries.mp entry
    have holds := word_of_settled (settled ref (Dict.mem_values.mpr ⟨_, found⟩))
    exact ⟨ref, found, holds, holds.ne_applied⟩

theorem strikePart_tells (name : String) {strike : StrikeReport (Ref Change)}
    (settled : ∀ ref ∈ strike.changes, (world.change ref).Settled) :
    (strikePart name (strike.map fun ref => (world.change ref).record)).Tells world strike where
  mark := by
    change (if strike.badStateAlert then "!!" else if strike.passed then "ok" else "xx") = "!!" ↔ _
    by_cases alert : strike.badStateAlert = true
    · simp [alert]
    · rw [if_neg alert]
      cases strike.passed <;> simp [alert]
  movements := by
    simp only [strikePart, StrikeReport.map, Dict.map, Dict.values, List.map_map,
      List.forall₂_map_left_iff, List.forall₂_map_right_iff, List.forall₂_same, Function.comp_def]
    intro entry member
    apply movementPart_tells
    intro ref among
    apply settled ref
    exact List.mem_flatMap.mpr ⟨entry.2, List.mem_map_of_mem member, among⟩

theorem verdict_answered {tactic : Tactic} {answer : Except TacticError Unit}
    (answered : Execution.Answered tactic answer) (world : World) :
    let verdict := (page (tactic.record world)).verdict
    (verdict = "BAD STATE" ↔ answer = .error (.badState tactic.name)) ∧
      (verdict = "PASSED" ↔ answer = .ok ()) ∧
      (verdict = "FAILED" ↔
        ∃ succeeded attempted, answer = .error (.strikesFailed tactic.name succeeded attempted)) := by
  have shape : (page (tactic.record world)).verdict =
      if tactic.badStateAlert then "BAD STATE" else if tactic.passed then "PASSED" else "FAILED" :=
    rfl
  simp only [shape]
  cases answered with
  | badState alert status passed => simp [alert]
  | failed calm failed status passed => simp [calm, passed]
  | passed calm fine status passed => simp [calm, passed]

/-- The parts for the strikes are those of the results that the tactic keeps. -/
theorem strikes_page (tactic : Tactic) :
    (page (tactic.record world)).strikes = tactic.strikeResults.entries.map fun entry =>
      strikePart entry.1 (entry.2.report.map fun ref => (world.change ref).record) := by
  simp only [page, Tactic.record, Tactic.reportWith, Dict.map, List.map_map, Function.comp_def]

theorem names_page (tactic : Tactic) :
    (page (tactic.record world)).strikes.map StrikePart.name = tactic.strikeResults.keys := by
  simp only [strikes_page, List.map_map, Function.comp_def, strikePart, Dict.keys]

end

/-- The page of a tactic that was executed tells of the execution, as long as no change was touched
since. -/
theorem page_tells {state : Execution} {answer : Except TacticError Unit} {world : World}
    (named : state.tactic.name ≠ "") (uncounted : state.tactic.Uncounted)
    (shared : state.tactic.executed.index < state.world.executed.size)
    (returned : (execute state).1 = .done answer)
    (untouched : world.changes = (execute state).2.world.changes) :
    (page ((execute state).2.tactic.record world)).Tells state answer := by
  have filled : state.tactic.name.isEmpty = false := by simpa using named
  have ran : Executed state (.done answer) (execute state).2 :=
    Execution.executed filled uncounted.status (Prod.ext returned rfl)
  obtain ⟨closings, told⟩ := ran.told uncounted shared
  have same : (execute state).2.tactic.record world =
      (execute state).2.tactic.record (execute state).2.world := by
    simp only [Tactic.record, World.change, untouched]
  rw [same]
  obtain ⟨badState, passed, failed⟩ :=
    verdict_answered told.answered (execute state).2.world
  rw [told.name] at badState failed
  refine ⟨told.name, badState, passed, failed, ?_, ?_, ?_⟩
  · intro name
    have strikes : state.started.map Execution.Start.strike = closings.map Prod.fst := by
      have bodies := congrArg (List.map Prod.fst) told.bodies
      simpa only [List.map_map, Function.comp_def] using bodies
    rw [names_page, told.keys]
    constructor
    · rintro ⟨closing, member, rfl⟩
      have among : closing.1 ∈ state.started.map Execution.Start.strike := by
        rw [strikes]
        exact List.mem_map_of_mem member
      obtain ⟨start, begun, same⟩ := List.mem_map.mp among
      exact ⟨start, begun, by rw [same]⟩
    · rintro ⟨start, begun, rfl⟩
      have among : start.strike ∈ closings.map Prod.fst := by
        rw [← strikes]
        exact List.mem_map_of_mem begun
      obtain ⟨closing, member, same⟩ := List.mem_map.mp among
      exact ⟨closing, member, by rw [same]⟩
  · rw [names_page]
    exact List.pairwise_map.mpr (execute state).2.tactic.strikeResults.sorted
  · intro part member
    rw [strikes_page] at member
    obtain ⟨⟨name, kept⟩, entry, rfl⟩ := List.mem_map.mp member
    have found := Dict.mem_entries.mp entry
    refine ⟨kept, found, strikePart_tells name ?_⟩
    intro ref among
    apply ran.settled ref
    exact Execution.mem_accounted.mpr
      (.inr (Execution.mem_keptChanges.mpr ⟨name, kept, found, among⟩))

/-- The report on the file that was written of a tactic after its execution tells what happened,
whatever the format. The verdict is the answer, there is a part for each name under which a body ran,
marked by its alert, and each line on a change gives the state that the change was left in; none
says that it is still applied. -/
theorem report_tells {state : Execution} {answer : Except TacticError Unit}
    {directory service path : String} {format : OutputFormat} {world written later : World}
    (uncounted : state.tactic.Uncounted)
    (shared : state.tactic.executed.index < state.world.executed.size)
    (few : state.tactic.strikes.length < Nat.pow 2 32)
    (clock : Moment.parse state.world.now.text = some state.world.now)
    (returned : (execute state).1 = .done answer)
    (untouched : world.changes = (execute state).2.world.changes)
    (wrote : writeTactic directory service (execute state).2.tactic format world =
      (.done (.ok path), written))
    (back : format.ReadsBack ((execute state).2.tactic.record world).toJson)
    (stands : later.files.read path = written.files.read path) :
    ∃ page : Page, report path later = (.done { printed := page.text, ending := .ok 0 }, later) ∧
      page.Tells state answer := by
  obtain ⟨place, stored⟩ := (Wrote.of_writeTactic wrote).stored_own
  have name : (execute state).2.tactic.name = state.tactic.name :=
    Execution.execute_name uncounted.status returned
  have named : state.tactic.name ≠ "" := name ▸ (resultsPath_named place).filled
  have readable := Execution.execute_readable named uncounted returned few clock world
  have decoded := TacticReport.ofFileText?_fileText readable back
  have read : readRecord later.files path =
      .ok ((execute state).2.tactic.record world).ordered := by
    have text : later.files.read path =
        .ok (((execute state).2.tactic.record world).fileText format) :=
      stands.trans stored.read
    simp only [readRecord, text, (resultsPath_named place).reads, decoded]
  refine ⟨page ((execute state).2.tactic.record world), ?_, ?_⟩
  · simp only [report, Act.bind_apply, Act.read_apply, read, reportText_eq, page_ordered]
    rfl
  · exact page_tells named uncounted shared returned untouched

/-- A tactic about to be executed. Of the three changes of its first strike one is reverted, one cannot
be, and one is never made; its second strike is not run. -/
def reporting : Execution :=
  let made (name : String) (reply : Reply) : Step :=
    .act (.change name name "d" (some (.scripted [.value .null])) (some (.scripted [reply])))
  let strike : Strike := ⟨"s1", .scripted { description := "first", steps := [
    made "c1" (.value .null), made "c2" (.failure ["stuck"]), made "c3" (.value .null),
    .movement { id := none, name := "mv", body := [.apply "c1" "svc" .null, .apply "c2" "svc" .null]
                plan := { description := "d", verdict := .pass "fine"
                          changes := Dict.ofList [("c1", "c1"), ("c2", "c2"), ("c3", "c3")] } }] }⟩
  ⟨{ executed := (({} : Table ExecutedStrikes).add {}).2 },
    { name := "t", strikes := [strike, Execution.passing "s2" "second" []], executed := ⟨0⟩
      context := { service := "svc", ledger := ⟨0⟩ } }⟩

theorem report_tells_reporting :
    ∃ answer written, ∃ page : Page, (execute reporting).1 = .done answer ∧
      writeTactic "out" "svc" (execute reporting).2.tactic .json (execute reporting).2.world =
        (.done (.ok "out/svc/t.json"), written) ∧
      report "out/svc/t.json" written = (.done { printed := page.text, ending := .ok 0 }, written) ∧
      page.Tells reporting answer := by
  have done : (execute reporting).1.isDone = true := by decide +kernel
  obtain ⟨answer, returned⟩ := Outcome.isDone_iff.mp done
  have written : (writeTactic "out" "svc" (execute reporting).2.tactic .json
      (execute reporting).2.world).1 = .done (.ok "out/svc/t.json") := by decide +kernel
  have wrote : writeTactic "out" "svc" (execute reporting).2.tactic .json
      (execute reporting).2.world = (.done (.ok "out/svc/t.json"),
        (writeTactic "out" "svc" (execute reporting).2.tactic .json
          (execute reporting).2.world).2) := by
    rw [← written]
  have back : OutputFormat.json.ReadsBack
      ((execute reporting).2.tactic.record (execute reporting).2.world).toJson :=
    OutputFormat.readsBack_json (by decide +kernel)
  obtain ⟨page, printed, tells⟩ := report_tells ⟨⟨rfl, rfl, rfl⟩, rfl, rfl, rfl⟩ (by decide)
    (by decide) (by decide) returned rfl wrote back rfl
  exact ⟨answer, _, page, returned, wrote, printed, tells⟩

end Raid.CommandLine
