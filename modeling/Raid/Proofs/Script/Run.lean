import Raid.Proofs.Script.Within

/-!
The bodies of strikes stay within every footprint that hosts them: one action, the actions of a
movement, the steps of a script and the built-in checks. What a body needs a permit for is read off
its text.
-/

namespace Raid

def Action.makes? : Action → Option Change
  | .change _ name description applier reverter =>
    some { name, description, applier, reverter }
  | .changeLoad _ record => (ChangeRecord.ofNode? record).map ChangeRecord.toChange
  | _ => none

def Action.records : Action → Bool
  | .executedRecord .. => true
  | _ => false

def Action.watches : Action → Bool
  | .watch .. => true
  | .unwatch .. => true
  | _ => false

def Action.tracks : Action → Bool
  | .add .. => true
  | .track .. => true
  | _ => false

structure Action.Permitted (permit : Permit) (action : Action) : Prop where
  makes : ∀ change, action.makes? = some change → permit.makes change
  records : action.records = true → permit.records
  watches : action.watches = true → permit.watches

theorem Action.Permitted.any (action : Action) : action.Permitted {} :=
  ⟨fun _ _ => trivial, fun _ => trivial, fun _ => trivial⟩

def Step.actions : Step → List Action
  | .act action => [action]
  | .movement step => step.body

def StrikeBody.Makes (change : Change) : StrikeBody → Prop
  | .scripted script => ∃ action ∈ script.steps.flatMap Step.actions, action.makes? = some change
  | .directory _ => (∃ name content, change = DirectoryCheck.canaryFile name content) ∨
    change = DirectoryCheck.readonlyFlag

def StrikeBody.Records : StrikeBody → Prop
  | .scripted script => ∃ action ∈ script.steps.flatMap Step.actions, action.records = true
  | .directory _ => False

def StrikeBody.Watches : StrikeBody → Prop
  | .scripted script => ∃ action ∈ script.steps.flatMap Step.actions, action.watches = true
  | .directory _ => False

structure StrikeBody.Permitted (permit : Permit) (body : StrikeBody) : Prop where
  makes : ∀ change, body.Makes change → permit.makes change
  records : body.Records → permit.records
  watches : body.Watches → permit.watches

theorem StrikeBody.Permitted.any (body : StrikeBody) : body.Permitted {} :=
  ⟨fun _ _ => trivial, fun _ => trivial, fun _ => trivial⟩

theorem StrikeBody.Permitted.action {permit : Permit} {script : StrikeScript}
    (permitted : (StrikeBody.scripted script).Permitted permit) {action : Action}
    (member : action ∈ script.steps.flatMap Step.actions) : action.Permitted permit where
  makes change makes := permitted.makes change ⟨action, member, makes⟩
  records records := permitted.records ⟨action, member, records⟩
  watches watches := permitted.watches ⟨action, member, watches⟩

namespace Script

open Act

variable {F : Footprint World} {permit : Permit}

theorem within_onObject {α : Type} {find : Bench → Option α} {id : String}
    {next : α → Task Answer} (rest : ∀ object, Within F (next object)) :
    Within F (onObject find id next) := by
  refine within_bind within_read fun world => ?_
  cases find world.bench with
  | some object => exact rest object
  | none => exact within_pure _

theorem within_shown {α : Type} (f : World → α) (answer : α → Answer) :
    Within F ((fun world => (.done (f world), world) : Task α) >>= fun seen => pure (answer seen)) :=
  within_bind (within_look _) fun _ => within_pure _

theorem within_movementAnswer (scope : Scope) (ran : Bool) (after : StrikeResult) :
    Within F (movementAnswer scope ran after) := by
  cases scope with
  | none => exact within_shown _ _
  | some context => exact within_pure _

section

variable (admits : F.Admits permit)

include admits

theorem within_makeChange (id : String) {change : Change} (fine : permit.makes change) :
    Within F (makeChange id change) :=
  within_bind (admits.newChange change fine) fun _ =>
    within_bind (admits.onBench _) fun _ => within_pure _

theorem within_nameManager (id : String) (manager : ChangeManager)
    (answer : ManagerView → Answer) :
    Within F (do
      nameManager id manager
      pure (answer (← managerState manager))) :=
  within_bind (admits.onBench _) fun _ => within_shown _ _

theorem within_nameResult (id : String) (result : StrikeResult) (answer : ResultView → Answer) :
    Within F (do
      nameResult id result
      pure (answer (← resultState result))) :=
  within_bind (admits.onBench _) fun _ => within_shown _ _

theorem within_raise (signal : String) : Within F (raise signal) := by
  refine within_bind within_read fun world => ?_
  cases world.processSlot with
  | none => exact within_halt _
  | some slot => exact within_bind (admits.trigger _ signal) fun _ => within_pure _

theorem within_run_aside (scope : Scope) (action : Action) (fine : action.Permitted permit)
    (aside : action.tracks = false) : Within F (run scope action) := by
  cases action with
  | change id name description applier reverter =>
    exact within_makeChange admits id (fine.makes _ rfl)
  | apply id target input =>
    exact within_onObject fun ref =>
      within_bind (admits.apply ref target input) fun _ => within_shown _ _
  | revert id =>
    exact within_onObject fun ref => within_bind (admits.revert ref) fun _ => within_shown _ _
  | state id => exact within_onObject fun ref => within_shown _ _
  | clone id other =>
    exact within_onObject fun ref => within_bind (admits.onBench _) fun _ => within_pure _
  | sameAs id other => exact within_onObject fun _ => within_onObject fun _ => within_pure _
  | changeDebug id => exact within_onObject fun ref => within_shown _ _
  | changeJson id => exact within_onObject fun ref => within_shown _ _
  | changeYaml id => exact within_onObject fun ref => within_shown _ _
  | changeLoad id record =>
    simp only [run]
    cases read : ChangeRecord.ofNode? record with
    | some found => exact within_makeChange admits id (fine.makes _ (by simp [Action.makes?, read]))
    | none => exact within_pure _
  | manager id allowed ledger =>
    cases ledger with
    | none => exact within_nameManager admits id _ _
    | some ledger => exact within_onObject fun ref => within_nameManager admits id _ _
  | managerOfContext id context =>
    exact within_onObject fun context => within_nameManager admits id _ _
  | allow id => exact within_onObject fun manager => within_nameManager admits id _ _
  | forbid id => exact within_onObject fun manager => within_nameManager admits id _ _
  | add id name change => cases aside
  | get id name =>
    exact within_onObject fun manager => within_bind within_read fun _ => within_shown _ _
  | managerApply id name target input =>
    exact within_onObject fun manager =>
      within_bind (admits.managerApply manager name target input) fun _ =>
        within_nameManager admits id _ _
  | managerRevert id name =>
    exact within_onObject fun manager => within_bind (admits.managerRevert manager name) fun _ =>
      within_nameManager admits id _ _
  | managerRevertAll id =>
    exact within_onObject fun manager => within_bind (admits.managerRevertAll manager) fun _ =>
      within_nameManager admits id _ _
  | managerState id => exact within_onObject fun manager => within_shown _ _
  | intoChanges id =>
    exact within_onObject fun manager => within_bind (admits.onBench _) fun _ => within_shown _ _
  | ledger id =>
    exact within_bind admits.newLedger fun _ => within_bind (admits.onBench _) fun _ => within_pure _
  | track ledger change => cases aside
  | ledgerState ledger => exact within_onObject fun ledger => within_shown _ _
  | ledgerRevertAll ledger =>
    exact within_onObject fun ledger => within_bind (admits.revertAll ledger) fun _ =>
      within_shown _ _
  | context id service invasive vars =>
    exact within_bind admits.newLedger fun _ => within_bind (admits.onBench _) fun _ =>
      within_bind (admits.onBench _) fun _ => within_shown _ _
  | var context name => exact within_onObject fun context => within_pure _
  | strikeResult id description context controlId docsUrl overwrite =>
    cases context with
    | none => exact within_nameResult admits id _ _
    | some context => exact within_onObject fun context => within_nameResult admits id _ _
  | resultState id => exact within_onObject fun result => within_shown _ _
  | resultChanges id =>
    exact within_onObject fun result => within_bind within_read fun _ => within_pure _
  | resultRevertChanges id =>
    exact within_onObject fun result => within_bind (admits.revertChanges result) fun _ =>
      within_shown _ _
  | followThrough id =>
    exact within_onObject fun result => within_bind (admits.onBench _) fun _ =>
      within_bind (admits.followThrough result) fun _ => within_nameResult admits id _ _
  | panic payload => exact within_panic payload
  | executed id names =>
    exact within_bind (admits.newExecuted names) fun _ => within_bind (admits.onBench _) fun _ =>
      within_pure _
  | executedRecord id name =>
    exact within_onObject fun ref => within_bind (admits.recordExecuted (fine.records rfl) ref name) fun _ =>
      within_shown _ _
  | executedNames id => exact within_onObject fun ref => within_shown _ _
  | executedContains id name => exact within_onObject fun ref => within_shown _ _
  | listener id exits fails =>
    refine within_bind within_read fun world => within_bind admits.newSlot fun slot =>
      within_bind (admits.onBench _) fun _ => ?_
    cases world.bench.listeners.get? id with
    | some listener => exact within_bind (admits.stop listener) fun _ => within_pure _
    | none => exact within_pure _
  | fire id =>
    exact within_onObject fun listener => within_ite
      (within_bind (admits.onBench _) fun _ => within_bind (admits.trigger listener _) fun _ =>
        within_pure _)
      (within_pure _)
  | dropListener id =>
    exact within_onObject fun listener => within_ite
      (within_bind (admits.onBench _) fun _ => within_bind (admits.stop listener) fun _ =>
        within_pure _)
      (within_pure _)
  | watch id tactic ledger guard =>
    refine within_onObject fun listener => within_onObject fun ledger =>
      within_bind (admits.begin (fine.watches rfl) listener.slot tactic ledger) fun _ =>
        within_bind within_read fun world => within_bind (admits.onBench _) fun _ => ?_
    cases world.bench.guards.get? guard with
    | some slot => exact within_bind (admits.finish (fine.watches rfl) slot) fun _ => within_shown _ _
    | none => exact within_shown _ _
  | unwatch guard =>
    refine within_bind within_read fun world => ?_
    cases world.bench.guards.get? guard with
    | none => exact within_pure _
    | some slot =>
      exact within_bind (admits.onBench _) fun _ =>
        within_bind (admits.finish (fine.watches rfl) slot) fun _ => within_pure _
  | watching id => exact within_onObject fun listener => within_shown _ _
  | raise signal => exact within_raise admits signal
  | writeFile path content =>
    exact within_bind (within_change fun world => admits.files world _
      (FileTree.ground_plant world.files path content)) fun _ => within_pure _
  | remove path =>
    exact fun world => admits.files world _ (FileTree.ground_prune world.files path)
  | tree => exact within_look _

end

variable (hosts : F.Hosts permit)

include hosts

theorem within_run (scope : Scope) (action : Action) (fine : action.Permitted permit) :
    Within F (run scope action) := by
  cases tracks : action.tracks with
  | false => exact within_run_aside hosts.toAdmits scope action fine tracks
  | true =>
    cases action with
    | add id name change =>
      exact within_onObject fun manager => within_onObject fun ref =>
        within_bind (hosts.managerAdd manager name ref) fun _ =>
          within_nameManager hosts.toAdmits id _ _
    | track ledger change =>
      exact within_onObject fun ledger => within_onObject fun ref =>
        within_bind (hosts.track ledger ref) fun _ => within_shown _ _
    | _ => cases tracks

theorem within_runNoted (scope : Scope) (action : Action)
    (fine : action.Permitted permit) :
    Within F (runNoted scope action) :=
  within_bind (within_run hosts scope action fine) fun _ => hosts.emit _ rfl

theorem within_runActions (scope : Scope) (actions : List Action)
    (fine : ∀ action ∈ actions, action.Permitted permit) :
    Within F (runActions scope actions) := by
  induction actions with
  | nil => exact within_pure ()
  | cons action rest ih =>
    rw [List.forall_mem_cons] at fine
    exact within_bind (within_runNoted hosts scope action fine.1) fun _ => ih fine.2

theorem within_movement (scope : Scope) (step : MovementStep)
    (fine : ∀ action ∈ step.body, action.Permitted permit) : Within F (movement scope step) :=
  within_bind (within_runActions hosts scope step.body fine) fun _ =>
    within_bind within_read fun _ => within_pure _

theorem within_execute (scope : Scope) (step : MovementStep) (result : StrikeResult)
    (fine : ∀ action ∈ step.body, action.Permitted permit) :
    Within F (execute scope step result) := by
  have inner := within_movement hosts scope step fine
  exact within_ite (hosts.executeInvasiveMovement result step.name inner)
    (hosts.executeMovement result step.name inner)

theorem within_runStep (scope : Scope) (result : StrikeResult) (step : Step)
    (fine : ∀ action ∈ step.actions, action.Permitted permit) :
    Within F (runStep scope result step) := by
  cases step with
  | act action =>
    exact within_bind (within_runNoted hosts scope action (fine action List.mem_cons_self))
      fun _ => within_pure _
  | movement step =>
    obtain ⟨id, name, invasive, context, body, plan⟩ := step
    cases id with
    | some id =>
      have named : Within F (executeNamed scope ⟨some id, name, invasive, context, body, plan⟩ id) :=
        within_onObject fun result =>
          within_bind (within_execute hosts scope _ result fine) fun after =>
            within_bind (hosts.onBench _) fun _ => within_movementAnswer scope _ after
      exact within_bind named fun _ => within_bind (hosts.emit _ rfl) fun _ => within_pure _
    | none =>
      exact within_bind (within_execute hosts scope _ result fine) fun _ =>
        within_bind (hosts.emit _ rfl) fun _ => within_pure _

theorem within_runSteps (scope : Scope) (result : StrikeResult) (steps : List Step)
    (fine : ∀ action ∈ steps.flatMap Step.actions, action.Permitted permit) :
    Within F (runSteps scope result steps) := by
  induction steps generalizing result with
  | nil => exact within_pure result
  | cons step rest ih =>
    rw [List.flatMap_cons, List.forall_mem_append] at fine
    exact within_bind (within_runStep hosts scope result step fine.1) fun after => ih after fine.2

end Script

open Act

theorem Look.within_movement {F : Footprint World} (context : StrikeContext) (look : Look) :
    Within F (look.movement context) := by
  intro world
  cases look <;>
    simp only [movement, DirectoryCheck.checkIsDirectory, DirectoryCheck.listEntries,
      DirectoryCheck.readPermissions] <;>
    cases DirectoryCheck.target context <;> dsimp only <;> (try split) <;> exact F.refl world

section

variable {F : Footprint World} {permit : Permit} (hosts : F.Hosts permit) {context : StrikeContext}
  {directory : String}

include hosts

namespace Probe

theorem within_make {probe : Probe}
    (canary : ∀ name content, permit.makes (DirectoryCheck.canaryFile name content))
    (flag : permit.makes DirectoryCheck.readonlyFlag) : Within F (probe.make context) := by
  cases probe with
  | canaryFile =>
    exact within_bind hosts.freshIdentifier fun _ => hosts.newChange _ (canary _ _)
  | readonlyFlag => exact hosts.newChange _ flag

omit hosts in
theorem within_conclude (probe : Probe) (applied : Option Json) (manager : ChangeManager) :
    Within F (probe.conclude context directory applied manager) :=
  within_bind within_read fun _ => within_pure _

theorem within_apply (probe : Probe) (manager : ChangeManager) :
    Within F (probe.apply context directory manager) :=
  within_bind (hosts.managerApply _ _ _ _) fun answer => within_conclude probe answer.1 answer.2

theorem within_attempt (probe : Probe) (ref : Ref Change) :
    Within F (probe.attempt context directory ref) :=
  within_bind (hosts.managerAdd _ _ ref) fun manager => within_apply hosts probe manager

theorem within_movement (probe : Probe)
    (canary : ∀ name content, permit.makes (DirectoryCheck.canaryFile name content))
    (flag : permit.makes DirectoryCheck.readonlyFlag) : Within F (probe.movement context) := by
  refine within_bind within_read fun world => ?_
  cases DirectoryCheck.existingTarget world.files context with
  | error message => exact within_pure _
  | ok directory =>
    exact within_bind (within_make hosts canary flag) fun ref => within_attempt hosts probe ref

end Probe

namespace DirectoryCheck

theorem within_opening (check : DirectoryCheck) : Within F (check.opening context) :=
  hosts.executeMovement _ _ (check.look.within_movement context)

theorem within_closing (check : DirectoryCheck)
    (canary : ∀ name content, permit.makes (canaryFile name content))
    (flag : permit.makes readonlyFlag) (result : StrikeResult) :
    Within F (check.closing context result) := by
  unfold closing
  cases check.probe with
  | none => exact within_pure result
  | some probe =>
    exact hosts.executeInvasiveMovement result _ (probe.within_movement hosts canary flag)

theorem within_run (context : StrikeContext) (check : DirectoryCheck)
    (canary : ∀ name content, permit.makes (canaryFile name content))
    (flag : permit.makes readonlyFlag) :
    Within F (check.run context) :=
  within_bind (within_opening hosts check) fun result =>
    within_closing hosts check canary flag result

end DirectoryCheck

end

namespace Strike

/-- The bodies of strikes stay within a footprint that hosts them. -/
theorem within_run {F : Footprint World} {permit : Permit} (hosts : F.Hosts permit)
    (strike : Strike) (context : StrikeContext) (permitted : strike.body.Permitted permit) :
    Act.Within F (strike.run context) := by
  unfold run
  cases body : strike.body with
  | scripted script =>
    rw [body] at permitted
    exact Act.within_bind (hosts.emit _ rfl) fun _ =>
      Script.within_runSteps hosts _ _ _ fun action member => permitted.action member
  | directory check =>
    rw [body] at permitted
    exact DirectoryCheck.within_run hosts context check
      (fun name content => permitted.makes _ (.inl ⟨name, content, rfl⟩))
      (permitted.makes _ (.inr rfl))

end Strike

end Raid
