import Raid.Proofs.Script.Tracking

/-!
The points between two actions of a script. At each of them it is known what the script has
registered so far, and what is left of it: the run of the script is the way to the point and then the
run of the rest.
-/

namespace Raid

open Act

/-- A point on the way of work: the world there, the changes that were registered on the way, and what
is left to do. -/
structure Pause (α : Type) where
  world : World
  registered : List (Ref Change)
  rest : Task α

namespace Script

def added (own : Ref Ledger) (world : World) : Action → List (Ref Change)
  | .add id _ change =>
    match world.bench.managers.get? id, world.bench.changes.get? change with
    | some manager, some ref => if manager.ledger = some own then [ref] else []
    | _, _ => []
  | _ => []

def addedBy (own : Ref Ledger) (scope : Scope) : List Action → World → List (Ref Change)
  | [], _ => []
  | action :: rest, world =>
    added own world action ++ addedBy own scope rest (runNoted scope action world).2

def host? (result : StrikeResult) (step : MovementStep) (world : World) : Option StrikeResult :=
  match step.id with
  | some id => world.bench.results.get? id
  | none => some result

/-- What a step registers. A movement registers what its body does, and what it returns when it comes
to its end on a result that the ledger backs. -/
def registered (own : Ref Ledger) (scope : Scope) (result : StrikeResult) (world : World) :
    Step → List (Ref Change)
  | .act action => added own world action
  | .movement step =>
    match host? result step world with
    | none => []
    | some host =>
      if runs step host then
        addedBy own scope step.body world ++
          match movement scope step world with
          | (.done report, _) => if host.ledger = some own then report.changes.values else []
          | _ => []
      else []

def registeredBy (own : Ref Ledger) (scope : Scope) :
    StrikeResult → List Step → World → List (Ref Change)
  | _, [], _ => []
  | result, step :: rest, world =>
    registered own scope result world step ++
      match runStep scope result step world with
      | (.done after, middle) => registeredBy own scope after rest middle
      | _ => []

def noteMovement (scope : Scope) (result : StrikeResult) (step : MovementStep)
    (host after : StrikeResult) : Task StrikeResult :=
  match step.id with
  | some id => do
    nameResult id after
    let answer ← movementAnswer scope (runs step host) after
    Task.emit (.stepFinished "movement" answer)
    pure result
  | none => do
    Task.emit (.stepFinished "movement"
      (.movementInStrike (runs step host) after.report.passed after.report.message))
    pure after

theorem within_noteMovement {F : Footprint World} {permit : Permit} (admits : F.Admits permit)
    (scope : Scope) (result : StrikeResult) (step : MovementStep) (host after : StrikeResult) :
    Within F (noteMovement scope result step host after) := by
  unfold noteMovement
  cases step.id with
  | none => exact within_bind (admits.emit _ rfl) fun _ => within_pure _
  | some id =>
    exact within_bind (admits.onBench _) fun _ =>
      within_bind (within_movementAnswer scope _ after) fun _ =>
        within_bind (admits.emit _ rfl) fun _ => within_pure _

/-- The points of a script: between two steps, and between two actions of a movement that is run. -/
inductive Pauses (own : Ref Ledger) (scope : Scope) (result : StrikeResult) (steps : List Step)
    (world : World) : Pause StrikeResult → Prop
  | between {before rest : List Step} {after : StrikeResult} {middle : World}
    (cut : steps = before ++ rest)
    (ran : runSteps scope result before world = (.done after, middle)) :
    Pauses own scope result steps world
      ⟨middle, registeredBy own scope result before world, runSteps scope after rest⟩
  | inside {before rest : List Step} {step : MovementStep} {after host : StrikeResult}
    {middle inner : World} {acted left : List Action}
    (cut : steps = before ++ .movement step :: rest)
    (ran : runSteps scope result before world = (.done after, middle))
    (hosted : host? after step middle = some host) (permitted : runs step host = true)
    (split : step.body = acted ++ left)
    (moved : runActions scope acted middle = (.done (), inner)) :
    Pauses own scope result steps world
      ⟨inner, registeredBy own scope result before world ++ addedBy own scope acted middle, do
        let moved ← execute scope { step with body := left } host
        let after ← noteMovement scope after step host moved
        runSteps scope after rest⟩

section

variable {scope : Scope} {result host : StrikeResult} {step : MovementStep} {world middle : World}

theorem runActions_append (first second : List Action) :
    runActions scope (first ++ second) =
      (runActions scope first >>= fun _ => runActions scope second) := by
  induction first with
  | nil => rfl
  | cons action rest ih =>
    funext world
    simp only [List.cons_append, runActions, bind_apply, ih]
    cases runNoted scope action world with
    | mk outcome after => cases outcome <;> rfl

theorem runSteps_append (result : StrikeResult) (first second : List Step) :
    runSteps scope result (first ++ second) =
      (runSteps scope result first >>= fun result => runSteps scope result second) := by
  induction first generalizing result with
  | nil => rfl
  | cons step rest ih =>
    funext world
    simp only [List.cons_append, runSteps, bind_apply, ih]
    cases runStep scope result step world with
    | mk outcome after => cases outcome <;> rfl

theorem runStep_movement (hosted : host? result step world = some host) :
    runStep scope result (.movement step) world =
      (execute scope step host >>= noteMovement scope result step host) world := by
  obtain ⟨id, name, invasive, context, body, plan⟩ := step
  cases id with
  | none =>
    cases hosted
    rfl
  | some id =>
    simp only [host?] at hosted
    simp only [runStep, executeNamed, onResult, onObject, bind_apply, read_apply, hosted]
    cases execute scope ⟨some id, name, invasive, context, body, plan⟩ host world with
    | mk outcome after => cases outcome <;> cases scope <;> rfl

theorem execute_runs (scope : Scope) (permitted : runs step host = true) :
    execute scope step host = host.executeMovement step.name (movement scope step) := by
  unfold execute StrikeResult.executeInvasiveMovement
  cases invasive : step.invasive with
  | false => rfl
  | true =>
    have allowed : host.invasive = true := by simpa [runs, invasive] using permitted
    rw [if_pos rfl, if_pos allowed]

/-- The movement of a step whose first actions are done is that of the step with the others. -/
theorem execute_split (permitted : runs step host = true) {acted left : List Action}
    (split : step.body = acted ++ left)
    (moved : runActions scope acted world = (.done (), middle)) :
    execute scope step host world = execute scope { step with body := left } host middle := by
  have same : movement scope step world = movement scope { step with body := left } middle := by
    rw [movement, split, runActions_append, movement, bind_apply, bind_apply, moved, bind_apply]
  have permitted' : runs { step with body := left } host = true := permitted
  rw [execute_runs scope permitted, execute_runs scope permitted']
  simp only [StrikeResult.executeMovement, bind_apply, same]

end

section

variable {own : Ref Ledger} {scope : Scope} {world after : World} {ref : Ref Change}

theorem added_tracked {action : Action}
    (run : runNoted scope action world = (.done (), after))
    (member : ref ∈ added own world action) : ref ∈ (after.ledger own).changes := by
  cases action with
  | add id name change =>
    simp only [added] at member
    cases found : world.bench.managers.get? id with
    | none => simp [found] at member
    | some manager =>
      cases known : world.bench.changes.get? change with
      | none => simp [found, known] at member
      | some other =>
        simp only [found, known] at member
        split at member
        case isFalse => cases member
        case isTrue backed =>
          obtain rfl := List.mem_singleton.mp member
          obtain ⟨answer, noted, acted, run⟩ := bind_eq_done run
          cases run
          simp only [Script.run, onManager, onChange, onObject, bind_apply, read_apply, found,
            known] at acted
          cases add : manager.add name ref world with
          | mk outcome added =>
            rw [add] at acted
            cases outcome with
            | done kept =>
              cases acted
              have registered := ChangeManager.add_tracks backed add
              exact registered
            | panicked payload => cases acted
            | ended ending => cases acted
  | _ => cases member

theorem addedBy_tracked {actions : List Action} (inside : own.index < world.ledgers.size)
    (run : runActions scope actions world = (.done (), after))
    (member : ref ∈ addedBy own scope actions world) : ref ∈ (after.ledger own).changes := by
  induction actions generalizing world with
  | nil => cases member
  | cons action rest ih =>
    obtain ⟨_, middle, acted, run⟩ := bind_eq_done run
    have hosts := Footprint.tracking_hosts own
    have begun := (within_runNoted hosts scope action (.any action)).of_run acted
    have inside := Nat.lt_of_lt_of_le inside begun.size
    rcases List.mem_append.mp member with first | later
    · exact ((within_runActions hosts scope rest fun action _ => .any action).of_run run).kept
        inside ref (added_tracked acted first)
    · rw [acted] at later
      exact ih inside run later

theorem registered_tracked {result kept : StrikeResult} {step : Step}
    (inside : own.index < world.ledgers.size)
    (run : runStep scope result step world = (.done kept, after))
    (member : ref ∈ registered own scope result world step) :
    ref ∈ (after.ledger own).changes := by
  cases step with
  | act action =>
    obtain ⟨_, middle, acted, run⟩ := bind_eq_done run
    cases run
    exact added_tracked acted member
  | movement step =>
    simp only [registered] at member
    cases hosted : host? result step world with
    | none => simp [hosted] at member
    | some host =>
      simp only [hosted] at member
      split at member
      case isFalse => cases member
      case isTrue permitted =>
        rw [runStep_movement hosted] at run
        obtain ⟨moved, later, executed, run⟩ := bind_eq_done run
        have same : after.ledger own = later.ledger own := by
          unfold noteMovement at run
          cases id : step.id with
          | some id =>
            simp only [id] at run
            cases scope <;> cases run <;> rfl
          | none =>
            simp only [id] at run
            cases run
            rfl
        rw [same]
        rw [execute_runs scope permitted] at executed
        obtain ⟨report, middle, made, -, tracks⟩ := StrikeResult.executeMovement_done executed
        obtain ⟨tracked, returned⟩ := tracks own
        rw [made] at member
        rcases List.mem_append.mp member with earlier | later
        · obtain ⟨_, acted, ran, made⟩ := bind_eq_done made
          have begun := (within_runActions (Footprint.tracking_hosts own) scope step.body
            fun action _ => .any action).of_run ran
          have kept := addedBy_tracked inside ran earlier
          obtain ⟨_, _, read, made⟩ := bind_eq_done made
          cases read
          cases made
          exact tracked.kept (Nat.lt_of_lt_of_le inside begun.size) ref kept
        · dsimp only at later
          split at later
          case isTrue backed => exact returned backed ref later
          case isFalse => cases later

theorem registeredBy_tracked {result kept : StrikeResult} {steps : List Step}
    (inside : own.index < world.ledgers.size)
    (run : runSteps scope result steps world = (.done kept, after))
    (member : ref ∈ registeredBy own scope result steps world) :
    ref ∈ (after.ledger own).changes := by
  induction steps generalizing result world with
  | nil => cases member
  | cons step rest ih =>
    obtain ⟨next, middle, ran, run⟩ := bind_eq_done run
    have hosts := Footprint.tracking_hosts own
    have begun := (within_runStep hosts scope result step fun action _ => .any action).of_run ran
    have inside' := Nat.lt_of_lt_of_le inside begun.size
    simp only [registeredBy, ran] at member
    rcases List.mem_append.mp member with first | later
    · exact ((within_runSteps hosts scope next rest fun action _ => .any action).of_run run).kept
        inside' ref (registered_tracked inside ran first)
    · exact ih inside' run later

end

namespace Pauses

variable {own : Ref Ledger} {scope : Scope} {result : StrikeResult} {steps : List Step}
  {world : World} {pause : Pause StrikeResult} (paused : Pauses own scope result steps world pause)

include paused

/-- The run of the steps goes on from a point with what is left. -/
theorem resume : runSteps scope result steps world = pause.rest pause.world := by
  cases paused with
  | between cut ran => rw [cut, runSteps_append, bind_apply, ran]
  | @inside before rest step after host middle inner acted left cut ran hosted permitted split
      moved =>
    rw [cut, runSteps_append, bind_apply, ran]
    simp only [runSteps, bind_apply, runStep_movement hosted, execute_split permitted split moved]
    cases execute scope { step with body := left } host inner with
    | mk outcome after => cases outcome <;> rfl

/-- What a script has registered at a point stands in the ledger. -/
theorem tracked (inside : own.index < world.ledgers.size) :
    ∀ ref ∈ pause.registered, ref ∈ (pause.world.ledger own).changes := by
  intro ref member
  have hosts := Footprint.tracking_hosts own
  cases paused with
  | between cut ran => exact registeredBy_tracked inside ran member
  | @inside before rest step after host middle inner acted left cut ran hosted permitted split
      moved =>
    have begun := (within_runSteps hosts scope result before fun action _ => .any action).of_run ran
    have inside' := Nat.lt_of_lt_of_le inside begun.size
    rcases List.mem_append.mp member with earlier | later
    · exact ((within_runActions hosts scope acted fun action _ => .any action).of_run moved).kept
        inside' ref (registeredBy_tracked inside ran earlier)
    · exact addedBy_tracked inside' moved later

section

variable {F : Footprint World} {permit : Permit} (hosts : F.Hosts permit)
  (fine : ∀ action ∈ steps.flatMap Step.actions, action.Permitted permit)

include hosts fine

theorem allowed : F.allows world pause.world := by
  cases paused with
  | @between before rest _ _ cut ran =>
    rw [cut, List.flatMap_append, List.forall_mem_append] at fine
    exact (within_runSteps hosts scope result before fine.1).of_run ran
  | @inside before rest step after host middle inner acted left cut ran hosted permitted split
      moved =>
    rw [cut, List.flatMap_append, List.forall_mem_append, List.flatMap_cons,
      List.forall_mem_append, Step.actions, split, List.forall_mem_append] at fine
    obtain ⟨earlier, ⟨acted, -⟩, -⟩ := fine
    exact F.trans ((within_runSteps hosts scope result before earlier).of_run ran)
      ((within_runActions hosts scope _ acted).of_run moved)

theorem within_rest : Within F pause.rest := by
  cases paused with
  | @between before rest after _ cut ran =>
    rw [cut, List.flatMap_append, List.forall_mem_append] at fine
    exact within_runSteps hosts scope after rest fine.2
  | @inside before rest step after host middle inner acted left cut ran hosted permitted split
      moved =>
    rw [cut, List.flatMap_append, List.forall_mem_append, List.flatMap_cons,
      List.forall_mem_append, Step.actions, split, List.forall_mem_append] at fine
    obtain ⟨-, ⟨-, left⟩, later⟩ := fine
    exact within_bind (within_execute hosts scope _ host left) fun moved =>
      within_bind (within_noteMovement hosts.toAdmits scope _ step host moved) fun after =>
        within_runSteps hosts scope after rest later

end

end Pauses

end Script

end Raid
