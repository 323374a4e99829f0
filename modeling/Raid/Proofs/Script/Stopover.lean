import Raid.Proofs.Stopover
import Raid.Strike.Basic

/-!
The bodies of strikes in two runs of which the second makes one ledger more. Whatever a body does
with contexts, managers, results and ledgers, it does the same in both, and it answers the same.
-/

namespace Raid

open Act

namespace Script

open Stopover

variable {stop : Stopover} {α β : Type} {key : String}

theorem along_onObject {find : Bench → Option α} {find' : Bench → Option β} (f : α → β)
    {next : α → Task Answer} {next' : β → Task Answer}
    (found : ∀ bench, find' (stop.bench bench) = (find bench).map f)
    (rest : ∀ object, stop.Along id (next object) (next' (f object))) :
    stop.Along id (onObject find key next) (onObject find' key next') := by
  let image (world : World) : Task Answer :=
    (find world.bench).elim (pure (.unknownId key)) fun object => next' (f object)
  refine parallel_read image (fun first second abreast => ?_) fun world => ?_
  · simp only [image, abreast.bench, found]
    cases find first.bench <;> rfl
  · simp only [image]
    cases find world.bench with
    | some object => exact rest object
    | none => exact parallel_pure rfl

theorem along_onSame {find : Bench → Option α} {next next' : α → Task Answer}
    (found : ∀ bench, find (stop.bench bench) = find bench)
    (rest : ∀ object, stop.Along id (next object) (next' object)) :
    stop.Along id (onObject find key next) (onObject find key next') :=
  along_onObject id (fun bench => (found bench).trans (congrFun Option.map_id _).symm) rest

theorem along_onChange {next next' : Ref Change → Task Answer}
    (rest : ∀ ref, stop.Along id (next ref) (next' ref)) :
    stop.Along id (onChange key next) (onChange key next') :=
  along_onSame (fun _ => rfl) rest

theorem along_onExecuted {next next' : Ref ExecutedStrikes → Task Answer}
    (rest : ∀ ref, stop.Along id (next ref) (next' ref)) :
    stop.Along id (onExecuted key next) (onExecuted key next') :=
  along_onSame (fun _ => rfl) rest

theorem along_onListener {next next' : Listener → Task Answer}
    (rest : ∀ listener, stop.Along id (next listener) (next' listener)) :
    stop.Along id (onListener key next) (onListener key next') :=
  along_onSame (fun _ => rfl) rest

theorem along_onManager {next next' : ChangeManager → Task Answer}
    (rest : ∀ manager, stop.Along id (next manager) (next' (stop.manager manager))) :
    stop.Along id (onManager key next) (onManager key next') :=
  along_onObject stop.manager (fun bench => Dict.get?_map _ bench.managers key) rest

theorem along_onResult {next next' : StrikeResult → Task Answer}
    (rest : ∀ result, stop.Along id (next result) (next' (stop.result result))) :
    stop.Along id (onResult key next) (onResult key next') :=
  along_onObject stop.result (fun bench => Dict.get?_map _ bench.results key) rest

theorem context_found (scope : Scope) (bench : Bench) (key : String) :
    (if key = ownName then scope.map stop.context <|> (stop.bench bench).contexts.get? key
      else (stop.bench bench).contexts.get? key) =
      (if key = ownName then scope <|> bench.contexts.get? key
        else bench.contexts.get? key).map stop.context := by
  have found : (stop.bench bench).contexts.get? key =
      (bench.contexts.get? key).map stop.context := Dict.get?_map _ bench.contexts key
  rw [found]
  split
  · cases scope <;> rfl
  · rfl

theorem along_onContext (scope : Scope) {next next' : StrikeContext → Task Answer}
    (rest : ∀ context, stop.Along id (next context) (next' (stop.context context))) :
    stop.Along id (onContext scope key next) (onContext (scope.map stop.context) key next') :=
  along_onObject stop.context (fun bench => context_found scope bench key) rest

theorem along_onLedger (scope : Scope) {next next' : Ref Ledger → Task Answer}
    (rest : ∀ ledger, stop.Along id (next ledger) (next' (stop.ledger ledger))) :
    stop.Along id (onLedger scope key next) (onLedger (scope.map stop.context) key next') := by
  refine along_onObject stop.ledger (fun bench => ?_) rest
  have found : (stop.bench bench).ledgers.get? key = (bench.ledgers.get? key).map stop.ledger :=
    Dict.get?_map _ bench.ledgers key
  simp only [found]
  split
  · cases scope <;> rfl
  · rfl

theorem along_shown {see see' : World → α} (answer : α → Answer)
    (same : ∀ {first second}, World.Abreast stop first second → see' second = see first) :
    stop.Along id
      ((fun world => (.done (see world), world) : Task α) >>= fun seen => pure (answer seen))
      ((fun world => (.done (see' world), world) : Task α) >>= fun seen => pure (answer seen)) :=
  parallel_bind_same (parallel_look fun first second abreast => by rw [same abreast]; rfl) fun _ =>
    parallel_pure rfl

theorem along_showChange (ref : Ref Change) (answer : Change → Answer) :
    stop.Along id (changeState ref >>= fun change => pure (answer change))
      (changeState ref >>= fun change => pure (answer change)) :=
  along_shown answer fun abreast => abreast.change ref

theorem along_showManager (manager : ChangeManager) (answer : ManagerView → Answer) :
    stop.Along id (managerState manager >>= fun view => pure (answer view))
      (managerState (stop.manager manager) >>= fun view => pure (answer view)) :=
  along_shown answer fun abreast => abreast.managerView manager

theorem along_showResult (result : StrikeResult) (answer : ResultView → Answer) :
    stop.Along id (resultState result >>= fun view => pure (answer view))
      (resultState (stop.result result) >>= fun view => pure (answer view)) :=
  along_shown answer fun abreast => abreast.resultView result

theorem along_showLedger (ledger : Ref Ledger) (answer : List Change → Answer) :
    stop.Along id (ledgerState ledger >>= fun changes => pure (answer changes))
      (ledgerState (stop.ledger ledger) >>= fun changes => pure (answer changes)) :=
  along_shown answer fun abreast => abreast.ledgerChanges ledger

theorem along_nameManager (key : String) (manager : ChangeManager) :
    stop.Along id (nameManager key manager) (nameManager key (stop.manager manager)) :=
  along_onBench fun bench => by simp only [Stopover.bench, Dict.map_insert]

theorem along_nameLedger (key : String) (ledger : Ref Ledger) :
    stop.Along id (nameLedger key ledger) (nameLedger key (stop.ledger ledger)) :=
  along_onBench fun bench => by simp only [Stopover.bench, Dict.map_insert]

theorem along_nameResult (key : String) (result : StrikeResult) :
    stop.Along id (nameResult key result) (nameResult key (stop.result result)) :=
  along_onBench fun bench => by simp only [Stopover.bench, Dict.map_insert]

theorem along_showNamedManager (key : String) (manager : ChangeManager)
    (answer : ManagerView → Answer) :
    stop.Along id (do nameManager key manager; pure (answer (← managerState manager)))
      (do
        nameManager key (stop.manager manager)
        pure (answer (← managerState (stop.manager manager)))) :=
  parallel_bind_same (along_nameManager key manager) fun _ => along_showManager manager answer

theorem along_showNamedResult (key : String) (result : StrikeResult)
    (answer : ResultView → Answer) :
    stop.Along id (do nameResult key result; pure (answer (← resultState result)))
      (do
        nameResult key (stop.result result)
        pure (answer (← resultState (stop.result result)))) :=
  parallel_bind_same (along_nameResult key result) fun _ => along_showResult result answer

theorem along_makeChange (key : String) (change : Change) :
    stop.Along id (makeChange key change) (makeChange key change) :=
  parallel_bind_same (along_newChange change) fun _ =>
    parallel_bind_same (along_onBench fun _ => rfl) fun _ => parallel_pure rfl

theorem result_decorate (result : StrikeResult) (controlId docsUrl : String)
    (overwrite : Option (Bool × String × Bool)) :
    decorate (stop.result result) controlId docsUrl overwrite =
      stop.result (decorate result controlId docsUrl overwrite) := by
  cases overwrite <;> rfl

theorem along_makeResult (key : String) (result : StrikeResult) (controlId docsUrl : String)
    (overwrite : Option (Bool × String × Bool)) :
    stop.Along id
      (do
        let result := decorate result controlId docsUrl overwrite
        nameResult key result
        pure (Answer.result (← resultState result)))
      (do
        let result := decorate (stop.result result) controlId docsUrl overwrite
        nameResult key result
        pure (Answer.result (← resultState result))) := by
  rw [result_decorate]
  exact along_showNamedResult key _ _

theorem along_raise (signal : String) : stop.Along id (raise signal) (raise signal) := by
  refine along_read (fun _ _ _ _ _ => rfl) fun world => ?_
  cases world.processSlot with
  | none => exact parallel_halt _
  | some slot => exact parallel_bind_same (Listener.along_trigger _ _) fun _ => parallel_pure rfl

theorem along_run (scope : Scope) (action : Action) :
    stop.Along id (run scope action) (run (scope.map stop.context) action) := by
  have onBench {f : Bench → Bench} (same : ∀ bench, f (stop.bench bench) = stop.bench (f bench)) :
      stop.Along id (Task.onBench f) (Task.onBench f) := along_onBench same
  cases action with
  | change key name description applier reverter => exact along_makeChange key _
  | apply key target input =>
    exact along_onChange fun ref =>
      parallel_bind_same (Change.along_apply ref target input) fun _ => along_showChange ref _
  | revert key =>
    exact along_onChange fun ref =>
      parallel_bind_same (Change.along_revert ref) fun _ => along_showChange ref _
  | state key => exact along_onChange fun ref => along_showChange ref _
  | clone key other =>
    exact along_onChange fun ref => parallel_bind_same (onBench fun _ => rfl) fun _ =>
      parallel_pure rfl
  | sameAs key other =>
    exact along_onChange fun _ => along_onChange fun _ =>
      parallel_pure rfl
  | changeDebug key => exact along_onChange fun ref => along_showChange ref _
  | changeJson key => exact along_onChange fun ref => along_showChange ref _
  | changeYaml key => exact along_onChange fun ref => along_showChange ref _
  | changeLoad key record =>
    simp only [run]
    cases ChangeRecord.ofNode? record with
    | some found => exact along_makeChange key _
    | none => exact parallel_pure rfl
  | manager key allowed ledger =>
    cases ledger with
    | none => exact along_showNamedManager key { allowed } _
    | some ledger =>
      exact along_onLedger scope fun ref =>
        along_showNamedManager key { allowed, ledger := some ref } _
  | managerOfContext key context =>
    exact along_onContext scope fun context => along_showNamedManager key context.changeManager _
  | allow key =>
    exact along_onManager fun manager =>
      along_showNamedManager key { manager with allowed := true } _
  | forbid key =>
    exact along_onManager fun manager =>
      along_showNamedManager key { manager with allowed := false } _
  | add key name change =>
    exact along_onManager fun manager => along_onChange fun ref =>
      parallel_bind (manager.along_add name ref) fun after => along_showNamedManager key after _
  | get key name =>
    exact along_onManager fun manager => along_read (fun _ _ _ _ _ => rfl) fun world =>
      along_showManager manager _
  | managerApply key name target input =>
    exact along_onManager fun manager =>
      parallel_bind (manager.along_apply name target input) fun answer =>
        along_showNamedManager key answer.2 _
  | managerRevert key name =>
    exact along_onManager fun manager =>
      parallel_bind (manager.along_revert name) fun answer =>
        along_showNamedManager key answer.2 _
  | managerRevertAll key =>
    exact along_onManager fun manager =>
      parallel_bind manager.along_revertAll fun answer => along_showNamedManager key answer.2 _
  | managerState key => exact along_onManager fun manager => along_showManager manager _
  | intoChanges key =>
    exact along_onManager fun manager =>
      parallel_bind_same
        (onBench fun bench => by simp only [Stopover.bench, Dict.map_erase]) fun _ =>
          along_showManager manager _
  | ledger key =>
    exact parallel_bind along_newLedger fun ledger =>
      parallel_bind_same (along_nameLedger key ledger) fun _ => parallel_pure rfl
  | track ledger change =>
    exact along_onLedger scope fun ledger => along_onChange fun ref =>
      parallel_bind_same (Ledger.along_track ledger ref) fun _ => along_showLedger ledger _
  | ledgerState ledger => exact along_onLedger scope fun ledger => along_showLedger ledger _
  | ledgerRevertAll ledger =>
    exact along_onLedger scope fun ledger =>
      parallel_bind_same (Ledger.along_revertAll ledger) fun _ => along_showLedger ledger _
  | context key service invasive vars =>
    exact parallel_bind along_newLedger fun ledger =>
      parallel_bind_same (along_nameLedger key ledger) fun _ =>
        parallel_bind_same
          (along_onBench fun bench => by simp only [Stopover.bench, Dict.map_insert]; rfl) fun _ =>
            along_showLedger ledger _
  | var context name => exact along_onContext scope fun context => parallel_pure rfl
  | strikeResult key description context controlId docsUrl overwrite =>
    cases context with
    | none => exact along_makeResult key (.standalone description) controlId docsUrl overwrite
    | some context =>
      exact along_onContext scope fun context =>
        along_makeResult key (context.strikeResult description) controlId docsUrl overwrite
  | resultState key => exact along_onResult fun result => along_showResult result _
  | resultChanges key =>
    exact along_onResult fun result => along_read (fun _ _ _ _ _ => rfl) fun world =>
      parallel_pure rfl
  | resultRevertChanges key =>
    exact along_onResult fun result =>
      parallel_bind_same (Change.along_revertEach _ _ _) fun _ => along_showResult result _
  | followThrough key =>
    refine along_onResult fun result => ?_
    rw [StrikeResult.result_withDefaultMessage]
    exact parallel_bind_same (along_nameResult key _) fun _ =>
      parallel_bind result.along_followThrough fun after => along_showNamedResult key after _
  | panic payload => exact parallel_panic payload
  | executed key names =>
    exact parallel_bind_same (along_newExecuted names) fun _ =>
      parallel_bind_same (onBench fun _ => rfl) fun _ => parallel_pure rfl
  | executedRecord key name =>
    exact along_onExecuted fun ref =>
      parallel_bind_same (along_recordExecuted ref name) fun _ =>
        parallel_bind_same (along_executedNames ref) fun _ => parallel_pure rfl
  | executedNames key =>
    exact along_onExecuted fun ref =>
      parallel_bind_same (along_executedNames ref) fun _ => parallel_pure rfl
  | executedContains key name =>
    exact along_onExecuted fun ref =>
      parallel_bind_same (along_executedNames ref) fun _ => parallel_pure rfl
  | listener key exits fails =>
    refine along_readSame (fun abreast => by simp only [abreast.bench]; rfl) fun world =>
      parallel_bind_same along_newSlot fun slot =>
        parallel_bind_same (onBench fun _ => rfl) fun _ => ?_
    cases world.bench.listeners.get? key with
    | some listener => exact parallel_bind_same listener.along_stop fun _ => parallel_pure rfl
    | none => exact parallel_pure rfl
  | fire key =>
    exact along_onListener fun listener => parallel_ite
      (parallel_bind_same (onBench fun _ => rfl) fun _ =>
        parallel_bind_same (listener.along_trigger _) fun _ => parallel_pure rfl)
      (parallel_pure rfl)
  | dropListener key =>
    exact along_onListener fun listener => parallel_ite
      (parallel_bind_same (onBench fun _ => rfl) fun _ =>
        parallel_bind_same listener.along_stop fun _ => parallel_pure rfl)
      (parallel_pure rfl)
  | watch key tactic ledger guard =>
    refine along_onListener fun listener => along_onLedger scope fun ledger =>
      parallel_bind_same (along_setSlot listener.slot (some ⟨tactic, ledger⟩)) fun _ =>
        along_readSame (fun abreast => by simp only [abreast.bench]; rfl) fun world =>
          parallel_bind_same (onBench fun _ => rfl) fun _ => ?_
    have shown : stop.Along id
        (Watch.watching listener.slot >>= fun watched => pure (Answer.optionalText watched))
        (Watch.watching listener.slot >>= fun watched => pure (Answer.optionalText watched)) :=
      parallel_bind_same (Watch.along_watching listener.slot) fun _ => parallel_pure rfl
    cases world.bench.guards.get? guard with
    | some slot => exact parallel_bind_same (along_setSlot slot none) fun _ => shown
    | none => exact shown
  | unwatch guard =>
    refine along_readSame (fun abreast => by simp only [abreast.bench]; rfl) fun world => ?_
    cases world.bench.guards.get? guard with
    | none => exact parallel_pure rfl
    | some slot =>
      exact parallel_bind_same (onBench fun _ => rfl) fun _ =>
        parallel_bind_same (along_setSlot slot none) fun _ => parallel_pure rfl
  | watching key =>
    exact along_onListener fun listener =>
      parallel_bind_same (Watch.along_watching listener.slot) fun _ => parallel_pure rfl
  | raise signal => exact along_raise signal
  | writeFile path content =>
    exact parallel_bind_same (along_aside fun _ _ _ _ _ => rfl) fun _ => parallel_pure rfl
  | remove path => exact along_aside fun _ _ _ _ _ => rfl
  | tree => exact along_aside fun _ _ _ _ _ => rfl

theorem along_runNoted (scope : Scope) (action : Action) :
    stop.Along id (runNoted scope action) (runNoted (scope.map stop.context) action) :=
  parallel_bind_same (along_run scope action) fun _ => along_emit _

theorem along_runActions (scope : Scope) (actions : List Action) :
    stop.Along id (runActions scope actions) (runActions (scope.map stop.context) actions) := by
  induction actions with
  | nil => exact parallel_pure rfl
  | cons action rest ih => exact parallel_bind_same (along_runNoted scope action) fun _ => ih

theorem judge_context (context : Option StrikeContext) (report : MovementReport (Ref Change))
    (verdict : Verdict) :
    judge (context.map stop.context) report verdict = judge context report verdict := by
  cases context <;> rfl

theorem along_movement (scope : Scope) (step : MovementStep) :
    stop.Along id (movement scope step) (movement (scope.map stop.context) step) := by
  refine parallel_bind_same (along_runActions scope step.body) fun _ =>
    along_readSame (fun {first second} abreast => ?_) fun world => parallel_pure rfl
  have managed : (step.plan.fromManager.bind (stop.bench first.bench).managers.get?).map
        ChangeManager.changes =
      (step.plan.fromManager.bind first.bench.managers.get?).map ChangeManager.changes := by
    have found (key : String) : (stop.bench first.bench).managers.get? key =
        (first.bench.managers.get? key).map stop.manager := Dict.get?_map _ first.bench.managers key
    cases step.plan.fromManager with
    | none => rfl
    | some key =>
      simp only [Option.bind_some, found, Option.map_map]
      rfl
  have planned : plannedChanges (stop.bench first.bench) step.plan =
      plannedChanges first.bench step.plan := rfl
  rw [abreast.bench]
  cases step.context with
  | none => simp only [managed, planned, judge_context]
  | some key => simp only [managed, planned, context_found, judge_context]

theorem along_execute (scope : Scope) (step : MovementStep) (result : StrikeResult) :
    stop.Along stop.result (execute scope step result)
      (execute (scope.map stop.context) step (stop.result result)) :=
  parallel_ite (result.along_executeInvasiveMovement _ (along_movement scope step))
    (result.along_executeMovement _ (along_movement scope step))

theorem along_movementAnswer (scope : Scope) (ran : Bool) (after : StrikeResult) :
    stop.Along id (movementAnswer scope ran after)
      (movementAnswer (scope.map stop.context) ran (stop.result after)) := by
  cases scope with
  | none => exact along_showResult after _
  | some context => exact parallel_pure rfl

theorem along_executeNamed (scope : Scope) (step : MovementStep) (key : String) :
    stop.Along id (executeNamed scope step key)
      (executeNamed (scope.map stop.context) step key) :=
  along_onResult fun result => parallel_bind (along_execute scope step result) fun after =>
    parallel_bind_same (along_nameResult key after) fun _ => along_movementAnswer scope _ after

theorem along_runStep (scope : Scope) (result : StrikeResult) (step : Step) :
    stop.Along stop.result (runStep scope result step)
      (runStep (scope.map stop.context) (stop.result result) step) := by
  cases step with
  | act action => exact parallel_bind_same (along_runNoted scope action) fun _ => parallel_pure rfl
  | movement step =>
    cases named : step.id with
    | some key =>
      simp only [runStep, named]
      exact parallel_bind_same (along_executeNamed scope step key) fun _ =>
        parallel_bind_same (along_emit _) fun _ => parallel_pure rfl
    | none =>
      simp only [runStep, named]
      exact parallel_bind (along_execute scope step result) fun _ =>
        parallel_bind_same (along_emit _) fun _ => parallel_pure rfl

theorem along_runSteps (scope : Scope) (result : StrikeResult) (steps : List Step) :
    stop.Along stop.result (runSteps scope result steps)
      (runSteps (scope.map stop.context) (stop.result result) steps) := by
  induction steps generalizing result with
  | nil => exact parallel_pure rfl
  | cons step rest ih => exact parallel_bind (along_runStep scope result step) ih

theorem along_runStrike (name : String) (script : StrikeScript) (context : StrikeContext) :
    stop.Along stop.result (runStrike name script context)
      (runStrike name script (stop.context context)) := by
  refine parallel_bind_same (along_emit _) fun _ => ?_
  have fresh : (if script.standalone then .standalone script.description
        else (stop.context context).strikeResult script.description) =
      stop.result (if script.standalone then .standalone script.description
        else context.strikeResult script.description) := by
    rw [apply_ite stop.result]
    rfl
  simp only [fresh, result_decorate]
  exact along_runSteps (some context) _ script.steps

end Script

namespace DirectoryCheck

open Stopover

variable {stop : Stopover} (context : StrikeContext)

theorem along_look (look : Look) :
    stop.Along id (look.movement context) (look.movement (stop.context context)) := by
  have same : look.movement (stop.context context) = look.movement context := by
    cases look <;> rfl
  rw [same]
  refine along_aside fun world ledgers slots bench journal => ?_
  cases look <;> simp only [Look.movement, checkIsDirectory, listEntries, readPermissions] <;>
    cases target context <;> dsimp only <;> (try split) <;> rfl

theorem along_make (probe : Probe) :
    stop.Along id (probe.make context) (probe.make (stop.context context)) := by
  cases probe with
  | canaryFile =>
    exact parallel_bind_same (along_aside fun _ _ _ _ _ => rfl) fun _ => along_newChange _
  | readonlyFlag => exact along_newChange _

theorem along_probe (probe : Probe) :
    stop.Along id (probe.movement context) (probe.movement (stop.context context)) := by
  refine along_read (fun _ _ _ _ _ => rfl) fun world => ?_
  have same : existingTarget world.files (stop.context context) =
      existingTarget world.files context := rfl
  rw [same]
  cases existingTarget world.files context with
  | error message => exact parallel_pure rfl
  | ok directory =>
    exact parallel_bind_same (along_make context probe) fun ref =>
      parallel_bind (context.changeManager.along_add probe.changeName ref) fun manager =>
        parallel_bind (manager.along_apply _ _ _) fun answer =>
          along_read (fun _ _ _ _ _ => rfl) fun world => parallel_pure rfl

theorem along_run (check : DirectoryCheck) :
    stop.Along stop.result (check.run context) (check.run (stop.context context)) := by
  refine parallel_bind ((context.strikeResult _).along_executeMovement _ (along_look context _)) ?_
  intro result
  simp only [closing]
  cases check.probe with
  | none => exact parallel_pure rfl
  | some probe => exact result.along_executeInvasiveMovement _ (along_probe context probe)

end DirectoryCheck

/-- The body of a strike comes to the same result on both sides. -/
theorem Strike.along_run {stop : Stopover} (strike : Strike) (context : StrikeContext) :
    stop.Along stop.result (strike.run context) (strike.run (stop.context context)) := by
  obtain ⟨name, body⟩ := strike
  cases body with
  | scripted script => exact Script.along_runStrike name script context
  | directory check => exact DirectoryCheck.along_run context check

end Raid
