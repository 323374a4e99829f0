import Mathlib.Data.List.Induction
import Raid.Proofs.Script.Tracking
import Raid.Proofs.Strike.FollowThrough

/-!
What the movements of a strike amount to. Recording folds one report after the other into the report
of the strike; here the whole fold is given by the list of the reports: the verdict is that of
all movements, the message is that of the last one that failed, and the map of the movements has the
last report under each name. A run of calls on a result comes to the fold of the movements that
it ran, and registers all the changes that they returned.
-/

namespace Raid

def MovementReport.named {χ : Type} (name : String) (report : MovementReport χ) : MovementReport χ :=
  { report with functionName := name }

theorem Dict.isEmpty_insert {α : Type} (dict : Dict α) (key : String) (value : α) :
    (dict.insert key value).isEmpty = false := by
  obtain ⟨entries, sorted⟩ := dict
  cases entries with
  | nil => rfl
  | cons head rest =>
    simp only [insert, isEmpty, insertEntry]
    split
    · rfl
    · split <;> rfl

namespace StrikeReport

variable {χ : Type}

def recordAll (report : StrikeReport χ) (ran : List (String × MovementReport χ)) : StrikeReport χ :=
  ran.foldl (fun report one => report.record one.1 (one.2.named one.1)) report

def last? (name : String) (ran : List (String × MovementReport χ)) : Option (MovementReport χ) :=
  ((ran.filter fun one => one.1 = name).getLast?).map Prod.snd

/-- The report whose message a strike shows: the last one that failed, and the last one of all where
none failed. -/
def decisive? (ran : List (String × MovementReport χ)) : Option (MovementReport χ) :=
  (((ran.filter fun one => !one.2.passed).getLast?).or ran.getLast?).map Prod.snd

def shown (ran : List (String × MovementReport χ)) : String :=
  (decisive? ran).elim "" MovementReport.message

structure Fresh (report : StrikeReport χ) : Prop where
  movements : report.movements = {}
  passed : report.passed = false
  message : report.message = ""

section

variable (report : StrikeReport χ) (before : List (String × MovementReport χ))
  (one : String × MovementReport χ) (name : String)

theorem recordAll_append : report.recordAll (before ++ [one]) =
    (report.recordAll before).record one.1 (one.2.named one.1) := by
  rw [recordAll, List.foldl_append]
  rfl

theorem last?_append : last? name (before ++ [one]) =
    if one.1 = name then some one.2 else last? name before := by
  unfold last?
  rw [List.filter_append]
  by_cases same : one.1 = name
  · simp [same]
  · simp [same]

theorem decisive?_append : decisive? (before ++ [one]) =
    if one.2.passed = true then
      if before.all (·.2.passed) then some one.2 else decisive? before
    else some one.2 := by
  unfold decisive?
  rw [List.filter_append]
  cases passed : one.2.passed with
  | false => simp [passed]
  | true =>
    cases all : before.all (·.2.passed) with
    | true =>
      have none : (before.filter fun one => !one.2.passed) = [] := by
        rw [List.filter_eq_nil_iff]
        simpa using all
      simp [passed, none]
    | false =>
      have some : (before.filter fun one => !one.2.passed) ≠ [] := by
        intro none
        rw [List.filter_eq_nil_iff] at none
        have fine : before.all (·.2.passed) = true := by
          rw [List.all_eq_true]
          intro one member
          simpa using none one member
        simp [fine] at all
      obtain ⟨last, last?⟩ := Option.isSome_iff_exists.mp (List.getLast?_isSome.mpr some)
      simp [passed, last?]

end

theorem last?_isSome {name : String} {ran : List (String × MovementReport χ)} :
    (last? name ran).isSome = true ↔ name ∈ ran.map Prod.fst := by
  simp [last?]

theorem last?_of_nodup {ran : List (String × MovementReport χ)} {one : String × MovementReport χ}
    (distinct : (ran.map Prod.fst).Nodup) (member : one ∈ ran) : last? one.1 ran = some one.2 := by
  induction ran using List.reverseRecOn with
  | nil => cases member
  | append_singleton before final ih =>
    rw [List.map_append, List.nodup_append] at distinct
    obtain ⟨distinct, -, apart⟩ := distinct
    rw [last?_append]
    rcases List.mem_append.mp member with early | late
    · have different : one.1 ≠ final.1 :=
        apart _ (List.mem_map_of_mem early) _ (List.mem_map_of_mem List.mem_cons_self)
      rw [if_neg different.symm]
      exact ih distinct early
    · rw [List.mem_singleton.mp late, if_pos rfl]

theorem mem_of_decisive? {ran : List (String × MovementReport χ)} {report : MovementReport χ}
    (decisive : decisive? ran = some report) : ∃ one ∈ ran, one.2 = report := by
  obtain ⟨one, found, rfl⟩ := Option.map_eq_some_iff.mp decisive
  refine ⟨one, ?_, rfl⟩
  rcases Option.or_eq_some_iff.mp found with failed | ⟨-, last⟩
  · exact (List.mem_filter.mp (List.mem_of_getLast? failed)).1
  · exact List.mem_of_getLast? last

theorem mem_changes {report : StrikeReport χ} {change : χ} : change ∈ report.changes ↔
    ∃ name movement, report.movements.get? name = some movement ∧
      change ∈ movement.changes.values := by
  simp only [changes, List.mem_flatMap, Dict.mem_values]
  constructor
  · rintro ⟨movement, ⟨name, found⟩, member⟩
    exact ⟨name, movement, found, member⟩
  · rintro ⟨name, movement, found, member⟩
    exact ⟨movement, ⟨name, found⟩, member⟩

theorem movements_recordAll (report : StrikeReport χ) (ran : List (String × MovementReport χ))
    (name : String) : (report.recordAll ran).movements.get? name =
      ((last? name ran).map (MovementReport.named name)).or (report.movements.get? name) := by
  induction ran using List.reverseRecOn with
  | nil => rfl
  | append_singleton before one ih =>
    rw [recordAll_append, last?_append]
    simp only [record, Dict.get?_insert]
    by_cases same : name = one.1
    · subst same
      simp
    · rw [if_neg same, if_neg (Ne.symm same), ih]

/-- The next report counts in full as long as no movement has failed. -/
theorem open_recordAll {report : StrikeReport χ} (fresh : report.Fresh)
    (ran : List (String × MovementReport χ)) :
    ((report.recordAll ran).movements.isEmpty || (report.recordAll ran).passed) =
      ran.all (·.2.passed) := by
  induction ran using List.reverseRecOn with
  | nil =>
    rw [recordAll, List.foldl_nil, fresh.movements]
    rfl
  | append_singleton before one ih =>
    rw [recordAll_append]
    simp only [record, Dict.isEmpty_insert, ih, Bool.false_or, List.all_append, List.all_cons,
      List.all_nil, Bool.and_true]
    cases all : before.all (·.2.passed) with
    | true => rfl
    | false =>
      rw [all] at ih
      simpa using (Bool.or_eq_false_iff.mp ih).2

/-- A strike has passed when a movement ran and all of them passed: once failed it stays so. -/
theorem passed_recordAll {report : StrikeReport χ} (fresh : report.Fresh)
    (ran : List (String × MovementReport χ)) :
    (report.recordAll ran).passed = true ↔ ran ≠ [] ∧ ∀ one ∈ ran, one.2.passed = true := by
  induction ran using List.reverseRecOn with
  | nil => simp [recordAll, fresh.passed]
  | append_singleton before one ih =>
    have counts := open_recordAll fresh (before ++ [one])
    have filled : (report.recordAll (before ++ [one])).movements.isEmpty = false := by
      rw [recordAll_append]
      exact Dict.isEmpty_insert _ _ _
    rw [filled, Bool.false_or] at counts
    rw [counts, List.all_eq_true]
    simp

/-- A strike shows the message of its decisive movement. -/
theorem message_recordAll {report : StrikeReport χ} (fresh : report.Fresh)
    (ran : List (String × MovementReport χ)) :
    (report.recordAll ran).message = shown ran := by
  induction ran using List.reverseRecOn with
  | nil => exact fresh.message
  | append_singleton before one ih =>
    rw [shown, recordAll_append, decisive?_append]
    simp only [record, open_recordAll fresh, ih, shown]
    cases passed : one.2.passed with
    | false => simp [MovementReport.named, passed]
    | true =>
      cases before.all (·.2.passed) with
      | true => simp [MovementReport.named]
      | false => simp [MovementReport.named, passed]

/-- Of the report of a strike recording changes the verdict, the message and the movements alone. -/
theorem recordAll_eq (report : StrikeReport χ) (ran : List (String × MovementReport χ)) :
    report.recordAll ran = { report with
      passed := (report.recordAll ran).passed, message := (report.recordAll ran).message
      movements := (report.recordAll ran).movements } := by
  induction ran using List.reverseRecOn with
  | nil => rfl
  | append_singleton before one ih =>
    rw [recordAll_append]
    generalize report.recordAll before = folded at ih
    rw [ih]
    rfl

end StrikeReport

theorem StrikeResult.fresh_standalone (description : String) :
    (standalone description).report.Fresh := ⟨rfl, rfl, rfl⟩

theorem StrikeContext.fresh_strikeResult (context : StrikeContext) (description : String) :
    (context.strikeResult description).report.Fresh := ⟨rfl, rfl, rfl⟩

theorem Script.fresh_decorate {result : StrikeResult} (fresh : result.report.Fresh)
    (controlId docsUrl : String) : (decorate result controlId docsUrl none).report.Fresh :=
  ⟨fresh.movements, fresh.passed, fresh.message⟩

/-- A call that asks for a movement. The movement may do anything to the world but take back
what is registered in a ledger. -/
structure MovementCall where
  name : String
  invasive : Bool := false
  movement : Task (MovementReport (Ref Change))
  tracks : ∀ own, Act.Within (.tracking own) movement

namespace MovementCall

def runs (call : MovementCall) (result : StrikeResult) : Bool := !call.invasive || result.invasive

def run (call : MovementCall) (result : StrikeResult) : Task StrikeResult :=
  if call.invasive then result.executeInvasiveMovement call.name call.movement
  else result.executeMovement call.name call.movement

def reports (call : MovementCall) (result : StrikeResult) (world : World) :
    List (String × MovementReport (Ref Change)) :=
  if call.runs result then
    match (call.movement world).1 with
    | .done report => [(call.name, report)]
    | _ => []
  else []

def returning (name : String) (report : MovementReport (Ref Change)) : MovementCall where
  name := name
  movement := pure report
  tracks _ := Act.within_pure report

def ofStep (scope : Script.Scope) (step : MovementStep) : MovementCall where
  name := step.name
  invasive := step.invasive
  movement := Script.movement scope step
  tracks own := Script.within_movement (Footprint.tracking_hosts own) scope step
    fun _ _ => ⟨fun _ _ => trivial, fun _ => trivial, fun _ => trivial⟩

theorem run_ofStep (scope : Script.Scope) (step : MovementStep) (result : StrikeResult) :
    (ofStep scope step).run result = Script.execute scope step result := rfl

variable {call : MovementCall} {result : StrikeResult} {world : World}

theorem run_of_runs (runs : call.runs result = true) :
    call.run result = result.executeMovement call.name call.movement := by
  unfold run
  cases invasive : call.invasive with
  | false => rfl
  | true =>
    have permitted : result.invasive = true := by simpa [MovementCall.runs, invasive] using runs
    simp [StrikeResult.executeInvasiveMovement, permitted]

theorem run_of_not_runs (still : call.runs result = false) :
    call.run result = result.executeInvasiveMovement call.name call.movement ∧
      result.invasive = false := by
  obtain ⟨invasive, permitted⟩ : call.invasive = true ∧ result.invasive = false := by
    simpa [MovementCall.runs] using still
  exact ⟨by rw [run, if_pos invasive], permitted⟩

end MovementCall

namespace StrikeResult

open Act

/-- A result that is not invasive passes an invasive movement over. -/
theorem notes_executeInvasiveMovement {result : StrikeResult}
    (still : result.invasive = false) (name : String)
    (movement : Task (MovementReport (Ref Change))) (world : World) :
    (result.executeInvasiveMovement name movement).Notes result world := by
  simp only [executeInvasiveMovement, still, Bool.false_eq_true, ↓reduceIte]
  exact ⟨[_], by simp [Event.isCall], rfl⟩

def runCalls (result : StrikeResult) : List MovementCall → Task StrikeResult
  | [] => pure result
  | call :: rest => do
    let after ← call.run result
    after.runCalls rest

def ran (result : StrikeResult) :
    List MovementCall → World → List (String × MovementReport (Ref Change))
  | [], _ => []
  | call :: rest, world =>
    call.reports result world ++
      match call.run result world with
      | (.done after, later) => after.ran rest later
      | _ => []

def folded (result : StrikeResult) (ran : List (String × MovementReport (Ref Change))) :
    StrikeResult := result.withReport (result.report.recordAll ran)

/-- Movements were folded into a result: they ran under these names and reported this, whatever was
registered before stays so, and what they returned is registered in the ledger of the result. -/
structure Folds (start : StrikeResult) (names : List String)
    (ran : List (String × MovementReport (Ref Change))) (result : StrikeResult)
    (before after : World) : Prop where
  same : result = start.folded ran
  order : ran.map Prod.fst = names
  tracks : ∀ own, World.Tracks own before after
  registered : ∀ own, start.ledger = some own → own.index < before.ledgers.size →
    ∀ one ∈ ran, ∀ ref ∈ one.2.changes.values, ref ∈ (after.ledger own).changes

theorem Folds.nothing {start : StrikeResult} {before after : World}
    (same : after.ledgers = before.ledgers) : Folds start [] [] start before after where
  same := rfl
  order := rfl
  tracks own := .of_ledgers same
  registered := by simp

theorem Folds.append {start middle result : StrikeResult} {names names' : List String}
    {ran ran' : List (String × MovementReport (Ref Change))} {before between after : World}
    (first : Folds start names ran middle before between)
    (second : Folds middle names' ran' result between after) :
    Folds start (names ++ names') (ran ++ ran') result before after where
  same := by
    simp only [second.same, first.same, folded, StrikeReport.recordAll, List.foldl_append]
    rfl
  order := by rw [List.map_append, first.order, second.order]
  tracks own := (Footprint.tracking own).trans (first.tracks own) (second.tracks own)
  registered := by
    intro own backed inside one member ref known
    have inside' := Nat.lt_of_lt_of_le inside (first.tracks own).size
    rcases List.mem_append.mp member with early | late
    · have registered := first.registered own backed inside one early ref known
      exact (second.tracks own).kept inside' ref registered
    · apply second.registered own _ inside' one late ref known
      rw [first.same]
      exact backed

variable {result after : StrikeResult} {call : MovementCall} {world later : World}

theorem executeMovement_isDone (name : String) {movement : Task (MovementReport (Ref Change))}
    (done : (movement world).1.isDone = true) :
    (result.executeMovement name movement world).1.isDone = true := by
  obtain ⟨report, middle, moved⟩ := Outcome.exists_of_isDone done
  simp only [executeMovement, bind_apply, moved]
  cases result.ledger with
  | none => rfl
  | some ledger =>
    have tracked := Ledger.trackEach_done ledger report.changes.values middle
    obtain ⟨value, kept, run⟩ := Outcome.exists_of_isDone (congrArg Outcome.isDone tracked)
    simp only [bind_apply, run]
    rfl

theorem run_done (run : call.run result world = (.done after, later)) :
    Folds result (if call.runs result then [call.name] else []) (call.reports result world) after
      world later := by
  cases runs : call.runs result with
  | false =>
    obtain ⟨skips, still⟩ := MovementCall.run_of_not_runs runs
    obtain ⟨events, -, passed⟩ := notes_executeInvasiveMovement still call.name call.movement world
    rw [skips, passed] at run
    cases run
    simp only [MovementCall.reports, runs, Bool.false_eq_true, ↓reduceIte]
    exact .nothing rfl
  | true =>
    rw [MovementCall.run_of_runs runs] at run
    obtain ⟨report, middle, moved, same, tracked⟩ := executeMovement_done run
    simp only [MovementCall.reports, runs, moved, ↓reduceIte]
    constructor
    case same => exact same
    case order => rfl
    case tracks =>
      intro own
      exact (Footprint.tracking own).trans ((call.tracks own).of_run moved) (tracked own).1
    case registered =>
      intro own backed _ one member
      rw [List.mem_singleton.mp member]
      exact (tracked own).2 backed

/-- Calls on a result fold in what the movements reported that ran, in the order of the calls. -/
theorem runCalls_done {calls : List MovementCall}
    (run : result.runCalls calls world = (.done after, later)) :
    Folds result ((calls.filter fun call => call.runs result).map MovementCall.name)
      (result.ran calls world) after world later := by
  induction calls generalizing result world with
  | nil =>
    cases run
    exact .nothing rfl
  | cons call rest ih =>
    obtain ⟨second, middle, first, run⟩ := bind_eq_done run
    have begun := run_done first
    have both := begun.append (ih run)
    have permitted (other : MovementCall) : other.runs second = other.runs result := by
      rw [begun.same]
      rfl
    simp only [permitted] at both
    simp only [ran, first, List.filter_cons]
    cases runs : call.runs result with
    | false =>
      rw [runs] at both
      exact both
    | true =>
      rw [runs] at both
      exact both

theorem runCalls_isDone {calls : List MovementCall}
    (returns : ∀ call ∈ calls, call.runs result = true →
      ∀ world, (call.movement world).1.isDone = true)
    (world : World) : (result.runCalls calls world).1.isDone = true := by
  induction calls generalizing result world with
  | nil => rfl
  | cons call rest ih =>
    obtain ⟨own, others⟩ := List.forall_mem_cons.mp returns
    have first : (call.run result world).1.isDone = true := by
      cases runs : call.runs result with
      | false =>
        obtain ⟨skips, still⟩ := MovementCall.run_of_not_runs runs
        obtain ⟨events, -, passed⟩ :=
          notes_executeInvasiveMovement still call.name call.movement world
        rw [skips, passed]
        rfl
      | true =>
        rw [MovementCall.run_of_runs runs]
        exact executeMovement_isDone call.name (own runs world)
    obtain ⟨second, middle, first⟩ := Outcome.exists_of_isDone first
    rw [runCalls, bind_apply, first]
    apply ih
    rw [(run_done first).same]
    exact others

/-- A result after its movements, by what they reported: the verdict, the message and the movements
are theirs, nothing else of the result is different, and the changes that they returned are registered
in its ledger, whether the result still has their reports or not. -/
structure Aggregated (start : StrikeResult) (calls : List MovementCall)
    (ran : List (String × MovementReport (Ref Change))) (result : StrikeResult) (after : World) :
    Prop where
  order : ran.map Prod.fst = (calls.filter fun call => call.runs start).map MovementCall.name
  passed : result.report.passed = true ↔ ran ≠ [] ∧ ∀ one ∈ ran, one.2.passed = true
  message : result.report.message = StrikeReport.shown ran
  names : ∀ name, name ∈ result.report.movements.keys ↔ name ∈ ran.map Prod.fst
  movements : ∀ name, result.report.movements.get? name =
    (StrikeReport.last? name ran).map (MovementReport.named name)
  others : result = start.withReport { start.report with
    passed := result.report.passed, message := result.report.message
    movements := result.report.movements }
  tracked : ∀ own, start.ledger = some own → ∀ one ∈ ran, ∀ ref ∈ one.2.changes.values,
    ref ∈ (after.ledger own).changes

/-- Calls on a fresh result come to the aggregate of the movements that were run, and they come to
their end when these movements do. A result that is not invasive passes an invasive movement over,
whatever it would do: neither the result nor the world is different then, but for the log. -/
theorem runCalls_aggregated {start : StrikeResult} (fresh : start.report.Fresh)
    (calls : List MovementCall) {world : World}
    (known : ∀ own, start.ledger = some own → own.index < world.ledgers.size) :
    (∀ result after, start.runCalls calls world = (.done result, after) →
      Aggregated start calls (start.ran calls world) result after) ∧
    ((∀ call ∈ calls, call.runs start = true → ∀ world, (call.movement world).1.isDone = true) →
      (start.runCalls calls world).1.isDone = true) ∧
    ∀ result : StrikeResult, result.invasive = false → ∀ name movement world,
      (result.executeInvasiveMovement name movement).Notes result world := by
  refine ⟨?_, fun returns => runCalls_isDone returns world,
    fun result still => notes_executeInvasiveMovement still⟩
  intro result after run
  obtain ⟨same, order, -, registered⟩ := runCalls_done run
  have movements (name : String) : result.report.movements.get? name =
      (StrikeReport.last? name (start.ran calls world)).map (MovementReport.named name) := by
    calc result.report.movements.get? name
      _ = (start.report.recordAll (start.ran calls world)).movements.get? name := by rw [same]; rfl
      _ = ((StrikeReport.last? name (start.ran calls world)).map (MovementReport.named name)).or
            (start.report.movements.get? name) := StrikeReport.movements_recordAll _ _ _
      _ = (StrikeReport.last? name (start.ran calls world)).map (MovementReport.named name) := by
        rw [fresh.movements]
        exact Option.or_none
  constructor
  case order => exact order
  case passed =>
    rw [same]
    exact StrikeReport.passed_recordAll fresh _
  case message =>
    rw [same]
    exact StrikeReport.message_recordAll fresh _
  case names =>
    intro name
    rw [← StrikeReport.last?_isSome, Dict.mem_keys, movements, ← Option.isSome_iff_exists,
      Option.isSome_map]
  case movements => exact movements
  case others =>
    rw [same]
    exact congrArg start.withReport (StrikeReport.recordAll_eq start.report _)
  case tracked =>
    intro own backed
    exact registered own backed (known own backed)

def gentleStart : StrikeResult :=
  Script.decorate (StrikeContext.strikeResult { ledger := ⟨0⟩ } "d") "control" "docs" none

/-- Two movements of one name, the first of which returns a change, and an invasive one between them
that would panic. -/
def overwritingCalls : List MovementCall :=
  [.returning "a" { passed := true, message := "made", changes := Dict.ofList [("c", ⟨0⟩)] },
    { name := "b", invasive := true, movement := Act.panic .unreadable
      tracks := fun _ => within_panic _ },
    .returning "a" { message := "refused" }, .returning "d" { passed := true, message := "fine" }]

/-- The strike stays failed. Its invasive movement is passed over, and the change that its first one
returned is registered although the report of that one gave way. -/
theorem runCalls_aggregated_overwriting :
    ∃ result after,
      gentleStart.runCalls overwritingCalls { ledgers := ⟨1, []⟩ } = (.done result, after) ∧
      result.report.passed = false ∧ result.report.message = "refused" ∧
      (result.report.movements.get? "a").map MovementReport.message = some "refused" ∧
      "b" ∉ result.report.movements.keys ∧ ⟨0⟩ ∈ (after.ledger ⟨0⟩).changes := by
  have fresh : gentleStart.report.Fresh :=
    Script.fresh_decorate (StrikeContext.fresh_strikeResult _ _) _ _
  obtain ⟨aggregated, ends, -⟩ := @runCalls_aggregated gentleStart fresh overwritingCalls
    { ledgers := ⟨1, []⟩ } (by rintro own ⟨⟩; decide)
  have returns : ∀ call ∈ overwritingCalls, call.runs gentleStart = true →
      ∀ world, (call.movement world).1.isDone = true := by
    simp only [overwritingCalls, List.forall_mem_cons]
    exact ⟨fun _ _ => rfl, nofun, fun _ _ => rfl, fun _ _ => rfl, by simp⟩
  obtain ⟨result, after, run⟩ := Outcome.exists_of_isDone (ends returns)
  have amounts := aggregated result after run
  refine ⟨result, after, run, ?_, ?_, ?_, ?_, ?_⟩
  · rw [← Bool.not_eq_true, amounts.passed]
    decide +kernel
  · rw [amounts.message]
    decide +kernel
  · rw [amounts.movements]
    decide +kernel
  · rw [amounts.names]
    decide +kernel
  · exact amounts.tracked ⟨0⟩ rfl ("a",
      { passed := true, message := "made", changes := Dict.ofList [("c", ⟨0⟩)] })
      List.mem_cons_self ⟨0⟩ (by decide)

end StrikeResult

end Raid
