import Mathlib.Data.List.Nodup
import Raid.Proofs.Change.Sweep
import Raid.Proofs.Script.Pausing

/-!
What a ledger holds after a script. Changes are handed to it from three sides: by the managers and
the results that it backs, and by the script itself. Whatever else the script does, the ledger then
holds each of them once, in the order in which they were first handed to it, behind what it held
before. So a sweep over it attempts each of them once.
-/

namespace Raid

open Act

section

variable {α : Type} [BEq α] [LawfulBEq α]

theorem nodup_eraseDups (list : List α) : list.eraseDups.Nodup := by
  induction h : list.length using Nat.strongRecOn generalizing list with
  | ind n ih =>
    cases list with
    | nil => exact .nil
    | cons a rest =>
      rw [List.eraseDups_cons, List.nodup_cons]
      refine ⟨by simp, ih _ ?_ _ rfl⟩
      rw [← h, List.length_cons]
      exact Nat.lt_succ_of_le (List.length_filter_le _ _)

theorem eraseDups_of_nodup {list : List α} (once : list.Nodup) : list.eraseDups = list := by
  induction list with
  | nil => rfl
  | cons a rest ih =>
    obtain ⟨fresh, once⟩ := List.nodup_cons.mp once
    have others : rest.filter (fun b => !b == a) = rest := by
      rw [List.filter_eq_self]
      intro b member
      have different : b ≠ a := fun same => fresh (same ▸ member)
      simpa using different
    rw [List.eraseDups_cons, others, ih once]

theorem eraseDups_append_eraseDups (first second : List α) :
    (first.eraseDups ++ second).eraseDups = (first ++ second).eraseDups := by
  have same : second.removeAll first.eraseDups = second.removeAll first := by
    simp [List.removeAll]
  rw [List.eraseDups_append, List.eraseDups_append, eraseDups_of_nodup (nodup_eraseDups first), same]

end

namespace World

variable {own : Ref Ledger} {first second third : World} {refs others : List (Ref Change)}

/-- From the one world to the other these changes were handed to the ledger, in this order: it holds
those that are new to it behind the others. -/
structure Registers (own : Ref Ledger) (refs : List (Ref Change)) (before after : World) : Prop where
  size : before.ledgers.size ≤ after.ledgers.size
  changes : own.index < before.ledgers.size → (before.ledger own).changes.Nodup →
    (after.ledger own).changes = ((before.ledger own).changes ++ refs).eraseDups

theorem Registers.of_ledger (size : first.ledgers.size ≤ second.ledgers.size)
    (same : own.index < first.ledgers.size → second.ledger own = first.ledger own) :
    Registers own [] first second := by
  refine ⟨size, fun inside once => ?_⟩
  rw [same inside, List.append_nil, eraseDups_of_nodup once]

theorem Registers.of_ledgers (same : second.ledgers = first.ledgers) :
    Registers own [] first second :=
  .of_ledger (Nat.le_of_eq (by rw [same])) fun _ => by rw [ledger, ledger, same]

theorem Registers.trans (begun : Registers own refs first second)
    (ended : Registers own others second third) : Registers own (refs ++ others) first third := by
  refine ⟨Nat.le_trans begun.size ended.size, fun inside once => ?_⟩
  have middle := begun.changes inside once
  have last := ended.changes (Nat.lt_of_lt_of_le inside begun.size)
    (middle ▸ nodup_eraseDups _)
  rw [last, middle, eraseDups_append_eraseDups, List.append_assoc]

end World

def Footprint.sparingLedger (own : Ref Ledger) : Footprint World where
  allows := World.Registers own []
  refl _ := .of_ledgers rfl
  trans := World.Registers.trans

theorem Footprint.sparingLedger_admits (own : Ref Ledger) :
    (Footprint.sparingLedger own).Admits {} where
  emit _ _ := fun _ => .of_ledgers rfl
  newChange _ _ := fun _ => .of_ledgers rfl
  apply _ _ _ := fun world =>
    .of_ledgers (World.ledgers_of_surroundings (Change.apply_surroundings _ _ _ world))
  revert ref := fun world =>
    .of_ledgers (World.ledgers_of_surroundings (Change.within_revert ref world).surroundings)
  newLedger := fun _ =>
    .of_ledger (Nat.le_succ _) fun inside => Table.get_add_of_ne _ _ (Nat.ne_of_lt inside)
  newExecuted _ := fun _ => .of_ledgers rfl
  recordExecuted _ _ _ := fun _ => .of_ledgers rfl
  newSlot := fun _ => .of_ledgers rfl
  setSlot _ _ _ := fun _ => .of_ledgers rfl
  onBench _ := fun _ => .of_ledgers rfl
  files _ _ _ := .of_ledgers rfl
  freshIdentifier := fun _ => .of_ledgers rfl

section

variable {α β : Type} {own : Ref Ledger} {work : Task α} {next : α → Task β}
  {refs : List (Ref Change)} {world : World}

def afterDone (ran : Outcome α × World) (more : α → World → List β) : List β :=
  match ran with
  | (.done value, middle) => more value middle
  | _ => []

theorem World.Registers.bind (first : Registers own refs world (work world).2)
    {more : α → World → List (Ref Change)}
    (rest : ∀ value middle, Registers own (more value middle) middle (next value middle).2) :
    Registers own (refs ++ afterDone (work world) more) world ((work >>= next) world).2 := by
  rw [bind_apply]
  cases run : work world with
  | mk outcome middle =>
    rw [run] at first
    cases outcome with
    | done value => exact first.trans (rest value middle)
    | panicked payload => simpa [afterDone] using first
    | ended ending => simpa [afterDone] using first

theorem World.Registers.bind_aside (first : Registers own refs world (work world).2)
    (rest : ∀ value, Within (.sparingLedger own) (next value)) :
    Registers own refs world ((work >>= next) world).2 := by
  rw [bind_apply]
  cases run : work world with
  | mk outcome middle =>
    rw [run] at first
    cases outcome with
    | done value => simpa using first.trans (rest value middle)
    | panicked payload => exact first
    | ended ending => exact first

end

namespace Ledger

theorem track_registers (own ledger : Ref Ledger) (ref : Ref Change) (world : World) :
    World.Registers own (if ledger = own then [ref] else []) world (track ledger ref world).2 := by
  have size : world.ledgers.size ≤ (track ledger ref world).2.ledgers.size :=
    Nat.le_of_eq (track_size ledger ref world).symm
  split
  · rename_i same
    subst same
    refine ⟨size, fun _ once => ?_⟩
    rw [List.eraseDups_append, eraseDups_of_nodup once]
    simp only [track, bind_apply, read_apply]
    by_cases known : ref ∈ (world.ledger ledger).changes
    · have none : [ref].removeAll (world.ledger ledger).changes = [] := by
        simp [List.removeAll, known]
      rw [if_pos known, none, List.eraseDups_nil, List.append_nil]
      rfl
    · rw [if_neg known]
      change ((world.ledgers.set ledger ⟨(world.ledger ledger).changes ++ [ref]⟩).get ledger).changes = _
      rw [Table.get_set_self]
      simp [List.removeAll, known, List.eraseDups_cons]
  · rename_i other
    exact .of_ledger size fun _ => track_ledgers ledger ref world (Ne.symm other)

theorem trackEach_registers (own ledger : Ref Ledger) (refs : List (Ref Change)) (world : World) :
    World.Registers own (if ledger = own then refs else []) world
      (trackEach ledger refs world).2 := by
  induction refs generalizing world with
  | nil =>
    rw [ite_self]
    exact .of_ledgers rfl
  | cons ref rest ih =>
    have both := (track_registers own ledger ref world).trans (ih _)
    rw [trackEach_cons]
    split at both <;> simp_all

end Ledger

namespace Script

/-- What an action hands to the ledger: the change that it adds to a manager that the ledger backs, or
that it asks the ledger itself to track. -/
def tracked (own : Ref Ledger) (scope : Scope) (world : World) : Action → List (Ref Change)
  | .add id name change => added own world (.add id name change)
  | .track ledger change =>
    match if ledger = ownName then scope.map (·.ledger) <|> world.bench.ledgers.get? ledger
        else world.bench.ledgers.get? ledger, world.bench.changes.get? change with
    | some found, some ref => if found = own then [ref] else []
    | _, _ => []
  | _ => []

def trackedBy (own : Ref Ledger) (scope : Scope) : List Action → World → List (Ref Change)
  | [], _ => []
  | action :: rest, world =>
    tracked own scope world action ++
      afterDone (runNoted scope action world) fun _ middle => trackedBy own scope rest middle

/-- What a step hands to the ledger. A movement that is run hands over what its body does, and then
what it returns when it comes to its end on a result that the ledger backs. -/
def handed (own : Ref Ledger) (scope : Scope) (result : StrikeResult) (world : World) :
    Step → List (Ref Change)
  | .act action => tracked own scope world action
  | .movement step =>
    match host? result step world with
    | none => []
    | some host =>
      if runs step host then
        trackedBy own scope step.body world ++ afterDone (movement scope step world) fun report _ =>
          if host.ledger = some own then report.changes.values else []
      else []

def handedBy (own : Ref Ledger) (scope : Scope) :
    StrikeResult → List Step → World → List (Ref Change)
  | _, [], _ => []
  | result, step :: rest, world =>
    handed own scope result world step ++
      afterDone (runStep scope result step world) fun after middle =>
        handedBy own scope after rest middle

variable {own : Ref Ledger} {scope : Scope} {world : World}

theorem onObject_some {α : Type} {find : Bench → Option α} {id : String} {next : α → Task Answer}
    {object : α} (found : find world.bench = some object) :
    onObject find id next world = next object world := by
  simp only [onObject, bind_apply, read_apply, found]

theorem onObject_none {α : Type} {find : Bench → Option α} {id : String} {next : α → Task Answer}
    (missing : find world.bench = none) :
    onObject find id next world = (.done (.unknownId id), world) := by
  simp only [onObject, bind_apply, read_apply, missing]
  rfl

theorem add_registers (own : Ref Ledger) (manager : ChangeManager) (name : String)
    (ref : Ref Change) (world : World) :
    World.Registers own (if manager.ledger = some own then [ref] else []) world
      (manager.add name ref world).2 := by
  have added := manager.add_done name ref world
  cases run : manager.add name ref world with
  | mk outcome after =>
    rw [run] at added
    cases added
    obtain ⟨journal, rfl⟩ := ChangeManager.add_world run
    cases backed : manager.ledger with
    | none => exact .of_ledgers rfl
    | some ledger =>
      simp only [Option.some.injEq]
      have journaled : World.Registers own [] (Ledger.track ledger ref world).2
          { (Ledger.track ledger ref world).2 with journal := journal } := .of_ledgers rfl
      simpa using (Ledger.track_registers own ledger ref world).trans journaled

theorem run_registers (own : Ref Ledger) (scope : Scope) (action : Action) (world : World) :
    World.Registers own (tracked own scope world action) world (run scope action world).2 := by
  have admits := Footprint.sparingLedger_admits own
  cases tracks : action.tracks with
  | false =>
    have none : tracked own scope world action = [] := by
      cases action <;> first | rfl | cases tracks
    rw [none]
    exact within_run_aside admits scope action (.any action) tracks world
  | true =>
    cases action with
    | add id name change =>
      simp only [run, tracked, added]
      cases found : world.bench.managers.get? id with
      | none =>
        rw [onManager, onObject_none found]
        exact .of_ledgers rfl
      | some manager =>
        rw [onManager, onObject_some found]
        cases known : world.bench.changes.get? change with
        | none =>
          rw [onChange, onObject_none known]
          exact .of_ledgers rfl
        | some ref =>
          rw [onChange, onObject_some known]
          exact (add_registers own manager name ref world).bind_aside fun _ =>
            within_nameManager admits id _ _
    | track ledger change =>
      simp only [run, tracked]
      cases found : (if ledger = ownName then scope.map (·.ledger) <|> world.bench.ledgers.get? ledger
          else world.bench.ledgers.get? ledger) with
      | none =>
        rw [onLedger, onObject_none found]
        exact .of_ledgers rfl
      | some reached =>
        rw [onLedger, onObject_some found]
        cases known : world.bench.changes.get? change with
        | none =>
          rw [onChange, onObject_none known]
          exact .of_ledgers rfl
        | some ref =>
          rw [onChange, onObject_some known]
          exact (Ledger.track_registers own reached ref world).bind_aside fun _ => within_shown _ _
    | _ => cases tracks

theorem runNoted_registers (own : Ref Ledger) (scope : Scope) (action : Action) (world : World) :
    World.Registers own (tracked own scope world action) world (runNoted scope action world).2 :=
  (run_registers own scope action world).bind_aside fun _ =>
    (Footprint.sparingLedger_admits own).emit _ rfl

theorem runActions_registers (own : Ref Ledger) (scope : Scope) (actions : List Action)
    (world : World) :
    World.Registers own (trackedBy own scope actions world) world
      (runActions scope actions world).2 := by
  induction actions generalizing world with
  | nil => exact .of_ledgers rfl
  | cons action rest ih =>
    exact (runNoted_registers own scope action world).bind fun _ middle => ih middle

theorem executeMovement_registers (own : Ref Ledger) (scope : Scope) (step : MovementStep)
    (host : StrikeResult) (world : World) :
    World.Registers own (trackedBy own scope step.body world ++
        afterDone (movement scope step world) fun report _ =>
          if host.ledger = some own then report.changes.values else [])
      world (host.executeMovement step.name (movement scope step) world).2 := by
  have admits := Footprint.sparingLedger_admits own
  have moved : World.Registers own (trackedBy own scope step.body world) world
      (movement scope step world).2 :=
    (runActions_registers own scope step.body world).bind_aside fun _ =>
      within_bind within_read fun _ => within_pure _
  refine moved.bind fun report middle => ?_
  cases backed : host.ledger with
  | none =>
    exact (within_bind (admits.emit _ rfl) fun _ => within_pure _ : Within _ _) middle
  | some ledger =>
    simp only [Option.some.injEq]
    exact (Ledger.trackEach_registers own ledger report.changes.values middle).bind_aside fun _ =>
      within_bind (admits.emit _ rfl) fun _ => within_pure _

theorem execute_registers (own : Ref Ledger) (scope : Scope) (step : MovementStep)
    (host : StrikeResult) (world : World) :
    World.Registers own
      (if runs step host then
        trackedBy own scope step.body world ++ afterDone (movement scope step world) fun report _ =>
          if host.ledger = some own then report.changes.values else []
      else []) world (execute scope step host world).2 := by
  split
  · rename_i permitted
    rw [execute_runs scope permitted]
    exact executeMovement_registers own scope step host world
  · rename_i refused
    obtain ⟨invasive, forbidden⟩ : step.invasive = true ∧ host.invasive = false := by
      simpa [runs] using refused
    rw [execute, if_pos invasive, StrikeResult.executeInvasiveMovement, if_neg (by simp [forbidden])]
    exact .of_ledgers rfl

theorem runStep_registers (own : Ref Ledger) (scope : Scope) (result : StrikeResult) (step : Step)
    (world : World) :
    World.Registers own (handed own scope result world step) world
      (runStep scope result step world).2 := by
  have admits := Footprint.sparingLedger_admits own
  cases step with
  | act action =>
    exact (runNoted_registers own scope action world).bind_aside fun _ => within_pure _
  | movement step =>
    simp only [handed]
    cases hosted : host? result step world with
    | none =>
      obtain ⟨id, name, invasive, context, body, plan⟩ := step
      cases id with
      | none => cases hosted
      | some id =>
        have unknown (next : StrikeResult → Task Answer) :
            onResult id next world = (.done (.unknownId id), world) := onObject_none hosted
        simp only [runStep, executeNamed, bind_apply, unknown]
        exact .of_ledgers rfl
    | some host =>
      rw [runStep_movement hosted]
      exact (execute_registers own scope step host world).bind_aside fun after =>
        within_noteMovement admits scope result step host after

theorem runSteps_registers (own : Ref Ledger) (scope : Scope) (result : StrikeResult)
    (steps : List Step) (world : World) :
    World.Registers own (handedBy own scope result steps world) world
      (runSteps scope result steps world).2 := by
  induction steps generalizing result world with
  | nil => exact .of_ledgers rfl
  | cons step rest ih =>
    exact (runStep_registers own scope result step world).bind fun after middle => ih after middle

end Script

namespace Ledger

/-- The ledger holds what was handed to it from the one world to the other: each change once, in the
order in which it was first handed over, behind what the ledger held before. -/
structure Collected (own : Ref Ledger) (handed : List (Ref Change)) (before after : World) :
    Prop where
  once : (after.ledger own).changes.Nodup
  ordered : (after.ledger own).changes = ((before.ledger own).changes ++ handed).eraseDups
  grown : (before.ledger own).changes <+: (after.ledger own).changes
  whole : ∀ ref ∈ handed, ref ∈ (after.ledger own).changes

theorem collected_of_registers {own : Ref Ledger} {handed : List (Ref Change)}
    {before after : World} (registers : World.Registers own handed before after)
    (inside : own.index < before.ledgers.size) (once : (before.ledger own).changes.Nodup) :
    Collected own handed before after := by
  have ordered := registers.changes inside once
  refine ⟨?_, ordered, ?_, fun ref member => ?_⟩
  · rw [ordered]
    exact nodup_eraseDups _
  · rw [ordered, List.eraseDups_append, eraseDups_of_nodup once]
    exact List.prefix_append _ _
  · rw [ordered, List.mem_eraseDups]
    exact List.mem_append_right _ member

/-- A sweep reverted the changes of the ledger in order. It returned an error for just those that are
in bad state afterwards. -/
structure SweptOnce (own : Ref Ledger) (before : World) (failures : List ChangeError)
    (pass : List Change.Reversion) (after : World) : Prop where
  swept : Change.Swept before pass after
  attempted : Change.refsOf pass = (before.ledger own).changes
  answered : failures = pass.filterMap Change.Reversion.error?
  failed : ∀ reversion ∈ pass, reversion.error?.isSome = (after.change reversion.ref).badState
  kept : after.ledger own = before.ledger own

/-- A sweep comes to its end where no revert function panics. -/
theorem revertAll_sweptOnce {own : Ref Ledger} {world : World}
    (returns : ∀ ref ∈ (world.ledger own).changes, (world.change ref).RevertReturns) :
    ∃ failures pass after, revertAll own world = (.done failures, after) ∧
      SweptOnce own world failures pass after := by
  obtain ⟨failures, after, run⟩ := revertAll_returns returns
  obtain ⟨pass, swept, refs, same⟩ := Change.revertEach_swept run
  exact ⟨failures, pass, after, run, swept, refs, same, swept.error?_eq,
    ((within_revertAll own).of_run run).ledger own⟩

end Ledger

namespace Script

/-- Whatever a script does with managers, results and ledgers and however it ends, a ledger holds what
was handed to it, and a sweep over it attempts each change once. -/
theorem runSteps_collects (own : Ref Ledger) (scope : Scope) (result : StrikeResult)
    (steps : List Step) (world : World) (inside : own.index < world.ledgers.size)
    (once : (world.ledger own).changes.Nodup) :
    let after := (runSteps scope result steps world).2
    Ledger.Collected own (handedBy own scope result steps world) world after ∧
      ((∀ ref ∈ (after.ledger own).changes, (after.change ref).RevertReturns) →
        ∃ failures pass final, Ledger.revertAll own after = (.done failures, final) ∧
          Ledger.SweptOnce own after failures pass final) :=
  ⟨Ledger.collected_of_registers (runSteps_registers own scope result steps world) inside once,
    Ledger.revertAll_sweptOnce⟩

/-- Two changes of one name and a third one. The first gives way to the second in its manager, is
tracked again as a clone, and cannot be undone; the movement that returns the third is overwritten. -/
def shuffling : List Step :=
  let change (id name : String) (reply : Reply) : Action :=
    .change id name "d" (some (.scripted [])) (some (.scripted [reply]))
  [.act (change "a" "twin" (.failure ["locked"])), .act (change "b" "twin" (.value .null)),
    .act (.managerOfContext "m" "ctx"), .act (.manager "n" false (some "ctx")),
    .act (.add "m" "k" "a"), .act (.apply "a" "svc" .null), .act (.add "m" "k" "b"),
    .act (.clone "a" "again"), .act (.track "ctx" "again"), .act (.add "n" "k" "b"),
    .movement { id := none, name := "probe", body := [change "c" "single" (.value .null)]
                plan := { changes := Dict.ofList [("one", "b"), ("two", "c")] } },
    .movement { id := none, name := "probe" }]

theorem runSteps_collects_shuffling :
    let context : StrikeContext := { invasive := true, ledger := ⟨0⟩ }
    let start : World := { ledgers := ⟨1, []⟩ }
    let after := (runSteps (some context) (context.strikeResult "d") shuffling start).2
    (after.ledger ⟨0⟩).changes = [⟨0⟩, ⟨1⟩, ⟨2⟩] ∧
      ∃ failures pass final, Ledger.revertAll ⟨0⟩ after = (.done failures, final) ∧
        Change.refsOf pass = [⟨0⟩, ⟨1⟩, ⟨2⟩] ∧ Change.Swept after pass final ∧
          failures.length = 1 := by
  intro context start after
  obtain ⟨collected, sweeps⟩ := runSteps_collects ⟨0⟩ (some context) (context.strikeResult "d")
    shuffling start (by decide) (by decide)
  have handed : handedBy ⟨0⟩ (some context) (context.strikeResult "d") shuffling start =
      [⟨0⟩, ⟨1⟩, ⟨0⟩, ⟨1⟩, ⟨1⟩, ⟨2⟩] := by decide +kernel
  have holds : (after.ledger ⟨0⟩).changes = [⟨0⟩, ⟨1⟩, ⟨2⟩] := by
    rw [collected.ordered, handed]
    decide
  refine ⟨holds, ?_⟩
  have returns : ∀ ref ∈ ([⟨0⟩, ⟨1⟩, ⟨2⟩] : List (Ref Change)),
      (after.change ref).RevertReturns := by decide +kernel
  obtain ⟨failures, pass, final, run, swept⟩ := sweeps (holds ▸ returns)
  have single : (Ledger.revertAll ⟨0⟩ after).1.map List.length = .done 1 := by decide +kernel
  rw [run] at single
  exact ⟨failures, pass, final, run, swept.attempted.trans holds, swept.swept,
    Outcome.done.inj single⟩

end Script

end Raid
