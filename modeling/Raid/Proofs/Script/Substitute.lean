import Raid.Proofs.Script.Confined
import Raid.Proofs.Strike.Aggregation
import Raid.Strike.Basic

/-!
Other movements in the place of the invasive ones of a strike, or none. Where invasive movements are
not permitted, and none of them brings a permission of its own, the strike comes to the same result
whatever stands in their place.
-/

namespace Raid

open Act

/-- What is put in the place of an invasive movement: another one, or none. -/
structure Substitute where
  movement : MovementStep → Option MovementStep := fun _ => none
  probe : Probe → Option Probe := fun _ => none

namespace Substitute

variable (substitute : Substitute)

def step : Step → Option Step
  | .act action => some (.act action)
  | .movement step =>
    if step.invasive then (substitute.movement step).map .movement else some (.movement step)

def body : StrikeBody → StrikeBody
  | .scripted script => .scripted { script with steps := script.steps.filterMap substitute.step }
  | .directory check => .directory { check with probe := check.probe.bind substitute.probe }

def strike (strike : Strike) : Strike := { strike with body := substitute.body strike.body }

end Substitute

def MovementStep.Powerless (names : HarmlessNames) (step : MovementStep) : Prop :=
  ∀ id, step.id = some id → names.results id

/-- Whatever is put in place is an invasive movement that does not bring a permission. -/
def Substitute.Fits (names : HarmlessNames) (substitute : Substitute) : Prop :=
  ∀ step other, substitute.movement step = some other →
    other.invasive = true ∧ other.Powerless names

theorem Substitute.fits_none (names : HarmlessNames) : Fits names {} :=
  fun _ _ found => nomatch found

/-- Outside invasive movements no change is applied, but through managers of harmless names. -/
def Step.Confined (names : HarmlessNames) : Step → Prop
  | .act action => action.Confined names
  | .movement step => step.invasive = false → ∀ action ∈ step.body, action.Confined names

def Step.Powerless (names : HarmlessNames) : Step → Prop
  | .act _ => True
  | .movement step => step.invasive = true → step.Powerless names

def StrikeBody.Confined (names : HarmlessNames) : StrikeBody → Prop
  | .scripted script => ∀ step ∈ script.steps, step.Confined names
  | .directory _ => True

def StrikeBody.Powerless (names : HarmlessNames) : StrikeBody → Prop
  | .scripted script => ∀ step ∈ script.steps, step.Powerless names
  | .directory _ => True

namespace World.Tamed

variable {α β : Type} {names : HarmlessNames} {origin first second : World} {work : Task α}
  {value : α} {next : α → Task β} {other : Task β}

/-- What only takes notes does not have to stand on both sides. -/
theorem matches_left (notes : ∀ world, names.Hold world.bench → work.Notes value world)
    (rest : Matches (Tamed names origin) (next value) other) :
    Matches (Tamed names origin) (work >>= next) other := by
  intro first second tamed
  obtain ⟨journal, rfl⟩ := tamed.same
  obtain ⟨events, quiet, run⟩ := notes first tamed.hold
  rw [bind_apply, run]
  exact rest _ _ ⟨⟨journal, rfl⟩, tamed.hold,
    Footprint.withdrawing.trans tamed.course (Footprint.withdrawing_notes quiet first)⟩

theorem matches_right (notes : ∀ world, names.Hold world.bench → work.Notes value world)
    (rest : Matches (Tamed names origin) other (next value)) :
    Matches (Tamed names origin) other (work >>= next) := by
  intro first second tamed
  obtain ⟨journal, rfl⟩ := tamed.same
  obtain ⟨events, quiet, run⟩ := notes { first with journal := journal } tamed.hold
  rw [bind_apply, run]
  exact rest first _ { tamed with same := ⟨_, rfl⟩ }

theorem matches_notes {work' : Task α}
    (notes : ∀ world, names.Hold world.bench → work.Notes value world)
    (notes' : ∀ world, names.Hold world.bench → work'.Notes value world) :
    Matches (Tamed names origin) work work' := by
  intro first second tamed
  obtain ⟨journal, rfl⟩ := tamed.same
  obtain ⟨events, quiet, run⟩ := notes first tamed.hold
  obtain ⟨events', quiet', run'⟩ := notes' { first with journal := journal } tamed.hold
  rw [run, run']
  exact ⟨rfl, ⟨_, rfl⟩, tamed.hold,
    Footprint.withdrawing.trans tamed.course (Footprint.withdrawing_notes quiet first)⟩

end World.Tamed

namespace Script

open World

variable {names : HarmlessNames} {origin : World} {own : StrikeContext} {result : StrikeResult}

theorem respects_execute (calm : own.invasive = false) {step : MovementStep}
    (plain : step.invasive = false) (confined : ∀ action ∈ step.body, action.Confined names)
    (result : StrikeResult) :
    Respects (Tamed names origin) (execute (some own) step result) := by
  simp only [execute, plain, Bool.false_eq_true, ↓reduceIte]
  exact result.respects_executeMovement _ (respects_movement calm confined)

theorem yields_execute (scope : Scope) (step : MovementStep) (result : StrikeResult) :
    Yields (fun after => after.invasive = result.invasive) (execute scope step result) :=
  yields_ite
    (yields_ite (result.yields_executeMovement _ _) (yields_bind fun _ => yields_pure rfl))
    (result.yields_executeMovement _ _)

theorem respects_runStep (calm : own.invasive = false) {step : Step}
    (plain : ∀ movement, step = .movement movement → movement.invasive = false)
    (confined : step.Confined names) (result : StrikeResult) :
    Respects (Tamed names origin) (runStep (some own) result step) := by
  cases step with
  | act action => exact respects_bind (respects_runNoted calm confined) fun _ => respects_pure _
  | movement step =>
    have plain := plain step rfl
    have execute := @respects_execute names origin own calm step plain (confined plain)
    cases named : step.id with
    | none =>
      simp only [runStep, named]
      exact respects_bind (execute result) fun _ => respects_bind (Tamed.emit rfl) fun _ =>
        respects_pure _
    | some id =>
      simp only [runStep, named]
      refine respects_bind ?_ fun _ => respects_bind (Tamed.emit rfl) fun _ => respects_pure _
      exact respects_onResult fun found harmless =>
        matches_bind_of (execute found) (yields_execute _ step found) fun after same =>
          respects_bind (Tamed.onBench fun _ hold =>
            hold.insertResult fun trusted => same.trans (harmless trusted)) fun _ => respects_pure _

theorem yields_runStep (scope : Scope) (result : StrikeResult) (step : Step) :
    Yields (fun after => after.invasive = result.invasive) (runStep scope result step) := by
  cases step with
  | act action => exact yields_bind fun _ => yields_pure rfl
  | movement step =>
    cases named : step.id with
    | none =>
      simp only [runStep, named]
      exact yields_bind_of (yields_execute scope step result) fun after same =>
        yields_bind fun _ => yields_pure same
    | some id =>
      simp only [runStep, named]
      exact yields_bind fun _ => yields_bind fun _ => yields_pure rfl

/-- An invasive movement that does not bring a permission is passed over. -/
theorem notes_runStep (scope : Scope) {step : MovementStep} (invasive : step.invasive = true)
    (powerless : step.Powerless names) (still : result.invasive = false) {world : World}
    (hold : names.Hold world.bench) :
    (runStep scope result (.movement step)).Notes result world := by
  have passed {result : StrikeResult} (still : result.invasive = false) (world : World) :
      (execute scope step result).Notes result world := by
    simp only [execute, invasive, ↓reduceIte]
    exact result.notes_executeInvasiveMovement still _ _ world
  cases named : step.id with
  | none =>
    simp only [runStep, named]
    exact (passed still world).bind fun _ => (Task.notes_emit rfl _).bind fun _ =>
      Task.notes_pure result _
  | some id =>
    have answered : ∃ answer, (executeNamed scope step id).Notes answer world := by
      simp only [executeNamed, onResult, onObject, Task.Notes, bind_apply, read_apply]
      cases found : world.bench.results.get? id with
      | none => exact ⟨_, Task.notes_pure _ world⟩
      | some other =>
        have kept (journal : List Event) : (nameResult id other).Notes ()
            { world with journal := journal } :=
          Task.notes_onBench (by simp only [Dict.insert_of_get? found])
        have still := hold.results id other found (powerless id named)
        obtain ⟨answer, shown⟩ : ∃ answer, ∀ journal,
            (movementAnswer scope (runs step other) other).Notes answer
              { world with journal := journal } := by
          cases scope with
          | none =>
            exact ⟨.movement (runs step other) (world.resultView other), fun _ =>
              (Task.notes_look _ _).bind fun _ => Task.notes_pure _ _⟩
          | some context => exact ⟨_, fun _ => Task.notes_pure _ _⟩
        exact ⟨answer, (passed still world).bind fun _ => (kept _).bind fun _ => shown _⟩
    obtain ⟨answer, answered⟩ := answered
    simp only [runStep, named]
    exact answered.bind fun _ => (Task.notes_emit rfl _).bind fun _ => Task.notes_pure result _

/-- The steps of a strike, and those with other movements in the place of the invasive ones. -/
theorem matches_runSteps {substitute : Substitute} (fits : substitute.Fits names)
    (calm : own.invasive = false) {steps : List Step}
    (confined : ∀ step ∈ steps, step.Confined names)
    (powerless : ∀ step ∈ steps, step.Powerless names) (still : result.invasive = false) :
    Matches (Tamed names origin) (runSteps (some own) result steps)
      (runSteps (some own) result (steps.filterMap substitute.step)) := by
  induction steps generalizing result with
  | nil => exact respects_pure result
  | cons step rest ih =>
    obtain ⟨confined, others⟩ := List.forall_mem_cons.mp confined
    obtain ⟨powerless, weak⟩ := List.forall_mem_cons.mp powerless
    have plain (same : substitute.step step = some step)
        (tame : ∀ movement, step = .movement movement → movement.invasive = false) :
        Matches (Tamed names origin) (runSteps (some own) result (step :: rest))
          (runSteps (some own) result ((step :: rest).filterMap substitute.step)) := by
      rw [List.filterMap_cons_some same]
      exact matches_bind_of (respects_runStep calm tame confined result)
        (yields_runStep (some own) result step) fun after kept => ih others weak (kept.trans still)
    cases step with
    | act action => exact plain rfl fun _ => nofun
    | movement step =>
      cases invasive : step.invasive with
      | false =>
        refine plain (by simp [Substitute.step, invasive]) fun movement same => ?_
        cases same
        exact invasive
      | true =>
        -- The first run passes the movement over, and the second what stands in its place.
        refine Tamed.matches_left
          (fun _ hold => notes_runStep (some own) invasive (powerless invasive) still hold) ?_
        have replaced : substitute.step (.movement step) =
            (substitute.movement step).map .movement := by
          simp [Substitute.step, invasive]
        cases found : substitute.movement step with
        | none =>
          rw [List.filterMap_cons_none (by rw [replaced, found]; rfl)]
          exact ih others weak still
        | some other =>
          obtain ⟨invasive, powerless⟩ := fits step other found
          rw [List.filterMap_cons_some (by rw [replaced, found]; rfl)]
          exact Tamed.matches_right
            (fun _ hold => notes_runStep (some own) invasive powerless still hold)
            (ih others weak still)

theorem matches_runStrike {substitute : Substitute} (fits : substitute.Fits names)
    (calm : own.invasive = false) (name : String) {script : StrikeScript}
    (confined : ∀ step ∈ script.steps, step.Confined names)
    (powerless : ∀ step ∈ script.steps, step.Powerless names) :
    Matches (Tamed names origin) (runStrike name script own)
      (runStrike name { script with steps := script.steps.filterMap substitute.step } own) := by
  refine matches_bind (Tamed.emit rfl) fun _ =>
    matches_runSteps fits calm confined powerless ?_
  rw [decorate_invasive]
  split
  · rfl
  · exact calm

end Script

namespace DirectoryCheck

open World

variable {names : HarmlessNames} {origin : World} {own : StrikeContext}

theorem respects_look (look : Look) : Respects (Tamed names origin) (look.movement own) := by
  have still (world : World) : (look.movement own world).2 = world := by
    cases look <;> simp only [Look.movement, checkIsDirectory, listEntries, readPermissions] <;>
      cases target own <;> dsimp only <;> (try split) <;> rfl
  refine Tamed.aside (fun world journal => ?_) (fun world => by rw [still]) fun world => by rw [still]
  cases look <;> simp only [Look.movement, checkIsDirectory, listEntries, readPermissions] <;>
    cases target own <;> dsimp only <;> (try split) <;> rfl

/-- Where invasive movements are not permitted a check ends with its first movement. -/
theorem notes_closing (check : DirectoryCheck) {result : StrikeResult}
    (still : result.invasive = false) (world : World) :
    (check.closing own result).Notes result world := by
  unfold closing
  cases check.probe with
  | none => exact Task.notes_pure result world
  | some probe => exact StrikeResult.notes_executeInvasiveMovement still _ _ world

theorem matches_run (substitute : Substitute) (calm : own.invasive = false)
    (check : DirectoryCheck) :
    Matches (Tamed names origin) (check.run own)
      (run own { check with probe := check.probe.bind substitute.probe }) :=
  matches_bind_of (StrikeResult.respects_executeMovement _ _ (respects_look check.look))
    (StrikeResult.yields_executeMovement _ _ _) fun _ kept => Tamed.matches_notes
      (fun world _ => notes_closing check (kept.trans calm) world)
      (fun world _ => notes_closing _ (kept.trans calm) world)

end DirectoryCheck

/-- The body of a strike that is not invasive does the same, whatever stands in the place of its
invasive movements. -/
theorem Substitute.matches_run {names : HarmlessNames} {origin : World} {own : StrikeContext}
    {substitute : Substitute} (fits : substitute.Fits names) (calm : own.invasive = false)
    {strike : Strike} (confined : strike.body.Confined names)
    (powerless : strike.body.Powerless names) :
    Matches (World.Tamed names origin) (strike.run own) ((substitute.strike strike).run own) := by
  obtain ⟨name, body⟩ := strike
  cases body with
  | scripted script => exact Script.matches_runStrike fits calm name confined powerless
  | directory check => exact DirectoryCheck.matches_run substitute calm check

end Raid
