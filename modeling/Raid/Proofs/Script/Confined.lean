import Raid.Proofs.Script.Taming
import Raid.Script.Run

/-!
Scripts that do not bring a permission of their own. They apply changes through managers of harmless
names, which may not apply any, and in invasive movements. In worlds that differ in the journal alone
the actions and the other movements of such a script do the same, and withdraw changes at most.
-/

namespace Raid

open Act

/-- The action applies no change, but through a manager of a harmless name, and does not make what the
harmless names stand for anything else. -/
def Action.Confined (names : HarmlessNames) : Action → Prop
  | .apply .. => False
  | .managerApply id .. => names.managers id
  | .allow id => ¬names.managers id
  | .manager id allowed _ => names.managers id → allowed = false
  | .managerOfContext id source =>
    names.managers id → source = Script.ownName ∨ names.contexts source
  | .context id _ invasive _ => names.contexts id → invasive = false
  | .strikeResult id _ (some source) .. =>
    names.results id → source = Script.ownName ∨ names.contexts source
  | _ => True

namespace Script

open World

variable {names : HarmlessNames} {origin : World} {own : StrikeContext}

theorem respects_onObject {α : Type} {find : Bench → Option α} {id : String}
    {next : α → Task Answer}
    (rest : ∀ bench object, names.Hold bench → find bench = some object →
      Respects (Tamed names origin) (next object)) :
    Respects (Tamed names origin) (onObject find id next) := by
  refine Tamed.read (fun _ _ => rfl) fun world hold => ?_
  cases here : find world.bench with
  | some object => exact rest world.bench object hold here
  | none => exact respects_pure _

theorem respects_onManager {id : String} {next : ChangeManager → Task Answer}
    (rest : ∀ manager, (names.managers id → manager.allowed = false) →
      Respects (Tamed names origin) (next manager)) :
    Respects (Tamed names origin) (onManager id next) :=
  respects_onObject fun _ manager hold here => rest manager (hold.managers id manager here)

theorem respects_onResult {id : String} {next : StrikeResult → Task Answer}
    (rest : ∀ result, (names.results id → result.invasive = false) →
      Respects (Tamed names origin) (next result)) :
    Respects (Tamed names origin) (onResult id next) :=
  respects_onObject fun _ result hold here => rest result (hold.results id result here)

/-- Inside a strike that is not invasive its own context is harmless too. -/
theorem respects_onContext (calm : own.invasive = false) {id : String}
    {next : StrikeContext → Task Answer}
    (rest : ∀ context, (id = ownName ∨ names.contexts id → context.invasive = false) →
      Respects (Tamed names origin) (next context)) :
    Respects (Tamed names origin) (onContext (some own) id next) := by
  refine respects_onObject fun bench context hold here => rest context fun harmless => ?_
  split at here
  · cases here
    exact calm
  · rename_i other
    exact hold.contexts id context here (harmless.resolve_left other)

theorem respects_shown {α : Type} {f : World → α} (answer : α → Answer)
    (deaf : ∀ world journal, f { world with journal := journal } = f world) :
    Respects (Tamed names origin)
      ((fun world => (.done (f world), world) : Task α) >>= fun seen => pure (answer seen)) :=
  respects_bind (Tamed.look _ fun world journal => by rw [deaf world journal]) fun _ =>
    respects_pure _

theorem respects_makeChange (id : String) {change : Change} (idle : change.due = false) :
    Respects (Tamed names origin) (makeChange id change) :=
  respects_bind (Tamed.newChange idle) fun _ =>
    respects_bind (Tamed.onBench fun _ hold => { hold with }) fun _ => respects_pure _

theorem respects_nameManager {id : String} {manager : ChangeManager}
    (harmless : names.managers id → manager.allowed = false) (answer : ManagerView → Answer) :
    Respects (Tamed names origin) (do
      nameManager id manager
      pure (answer (← managerState manager))) :=
  respects_bind (Tamed.onBench fun _ hold => hold.insertManager harmless) fun _ =>
    respects_shown _ fun _ _ => rfl

theorem respects_nameResult {id : String} {result : StrikeResult}
    (harmless : names.results id → result.invasive = false) (answer : ResultView → Answer) :
    Respects (Tamed names origin) (do
      nameResult id result
      pure (answer (← resultState result))) :=
  respects_bind (Tamed.onBench fun _ hold => hold.insertResult harmless) fun _ =>
    respects_shown _ fun _ _ => rfl

theorem respects_raise (signal : String) : Respects (Tamed names origin) (raise signal) := by
  refine Tamed.read (fun _ _ => rfl) fun world _ => ?_
  cases world.processSlot with
  | none => exact respects_halt _
  | some slot => exact respects_bind (Listener.respects_trigger _ signal) fun _ => respects_pure _

@[simp] theorem decorate_invasive (result : StrikeResult) (controlId docsUrl : String)
    (overwrite : Option (Bool × String × Bool)) :
    (decorate result controlId docsUrl overwrite).invasive = result.invasive := by
  cases overwrite <;> rfl

theorem respects_run (calm : own.invasive = false) {action : Action}
    (confined : action.Confined names) :
    Respects (Tamed names origin) (run (some own) action) := by
  have carried := Tamed.carried names origin
  -- Names for objects of other kinds than those that may be harmless.
  have named {f : Bench → Bench} (kept : ∀ bench, (f bench).managers = bench.managers ∧
      (f bench).results = bench.results ∧ (f bench).contexts = bench.contexts) :
      Respects (Tamed names origin) (Task.onBench f) := Tamed.onBench fun bench hold => by
    obtain ⟨managers, results, contexts⟩ := kept bench
    exact ⟨managers ▸ hold.managers, results ▸ hold.results, contexts ▸ hold.contexts⟩
  cases action with
  | change id name description applier reverter =>
    exact respects_makeChange id (by simp [Change.due, Change.live])
  | apply id target input => exact confined.elim
  | revert id =>
    exact respects_onObject fun _ ref _ _ => respects_bind (Tamed.revert ref) fun _ =>
      respects_shown _ fun _ _ => rfl
  | state id => exact respects_onObject fun _ ref _ _ => respects_shown _ fun _ _ => rfl
  | clone id other =>
    exact respects_onObject fun _ ref _ _ => respects_bind (named fun _ => ⟨rfl, rfl, rfl⟩) fun _ =>
      respects_pure _
  | sameAs id other =>
    exact respects_onObject fun _ _ _ _ => respects_onObject fun _ _ _ _ => respects_pure _
  | changeDebug id => exact respects_onObject fun _ ref _ _ => respects_shown _ fun _ _ => rfl
  | changeJson id => exact respects_onObject fun _ ref _ _ => respects_shown _ fun _ _ => rfl
  | changeYaml id => exact respects_onObject fun _ ref _ _ => respects_shown _ fun _ _ => rfl
  | changeLoad id record =>
    simp only [run]
    cases ChangeRecord.ofNode? record with
    | some found =>
      exact respects_makeChange id (by simp [Change.due, ChangeRecord.toChange])
    | none => exact respects_pure _
  | manager id allowed ledger =>
    cases ledger with
    | none => exact respects_nameManager (fun trusted => confined trusted) _
    | some ledger =>
      exact respects_onObject fun _ ref _ _ =>
        respects_nameManager (fun trusted => confined trusted) _
  | managerOfContext id context =>
    exact respects_onContext calm fun context harmless =>
      respects_nameManager (fun trusted => harmless (confined trusted)) _
  | allow id =>
    exact respects_onManager fun manager _ =>
      respects_nameManager (fun trusted => absurd trusted confined) _
  | forbid id => exact respects_onManager fun manager _ => respects_nameManager (fun _ => rfl) _
  | add id name change =>
    exact respects_onManager fun manager harmless => respects_onObject fun _ ref _ _ =>
      matches_bind_of (manager.respects_add name ref) (manager.yields_add name ref)
        fun after same => respects_nameManager (fun trusted => same.trans (harmless trusted)) _
  | get id name =>
    exact respects_onManager fun manager _ => Tamed.read (fun _ _ => rfl) fun _ _ =>
      respects_shown _ fun _ _ => rfl
  | managerApply id name target input =>
    exact respects_onManager fun manager harmless =>
      have forbidden := harmless confined
      matches_bind_of (ChangeManager.respects_apply forbidden name target input)
        (ChangeManager.yields_apply forbidden name target input)
        fun answer still => respects_nameManager (fun _ => still) _
  | managerRevert id name =>
    exact respects_onManager fun manager harmless =>
      matches_bind_of (manager.respects_revert name) (manager.yields_revert name)
        fun answer same => respects_nameManager (fun trusted => same.trans (harmless trusted)) _
  | managerRevertAll id =>
    exact respects_onManager fun manager harmless =>
      matches_bind_of manager.respects_revertAll manager.yields_revertAll
        fun answer same => respects_nameManager (fun trusted => same.trans (harmless trusted)) _
  | managerState id => exact respects_onManager fun manager _ => respects_shown _ fun _ _ => rfl
  | intoChanges id =>
    exact respects_onManager fun manager _ =>
      respects_bind (Tamed.onBench fun _ hold => hold.eraseManager id) fun _ =>
        respects_shown _ fun _ _ => rfl
  | ledger id =>
    exact respects_bind carried.newLedger fun _ =>
      respects_bind (named fun _ => ⟨rfl, rfl, rfl⟩) fun _ => respects_pure _
  | track ledger change =>
    exact respects_onObject fun _ ledger _ _ => respects_onObject fun _ ref _ _ =>
      respects_bind (Tamed.track ledger ref) fun _ => respects_shown _ fun _ _ => rfl
  | ledgerState ledger => exact respects_onObject fun _ ledger _ _ => respects_shown _ fun _ _ => rfl
  | ledgerRevertAll ledger =>
    exact respects_onObject fun _ ledger _ _ => respects_bind (carried.revertAll ledger) fun _ =>
      respects_shown _ fun _ _ => rfl
  | context id service invasive vars =>
    exact respects_bind carried.newLedger fun ledger =>
      respects_bind (named fun _ => ⟨rfl, rfl, rfl⟩) fun _ =>
        respects_bind (Tamed.onBench fun _ hold => hold.insertContext confined) fun _ =>
          respects_shown _ fun _ _ => rfl
  | var context name => exact respects_onContext calm fun context _ => respects_pure _
  | strikeResult id description context controlId docsUrl overwrite =>
    cases context with
    | none => exact respects_nameResult (fun _ => decorate_invasive _ _ _ _) _
    | some context =>
      exact respects_onContext calm fun context harmless =>
        respects_nameResult
          (fun trusted => (decorate_invasive _ _ _ _).trans (harmless (confined trusted))) _
  | resultState id => exact respects_onResult fun result _ => respects_shown _ fun _ _ => rfl
  | resultChanges id =>
    exact respects_onResult fun result _ => Tamed.read (fun _ _ => rfl) fun _ _ => respects_pure _
  | resultRevertChanges id =>
    exact respects_onResult fun result _ => respects_bind (carried.revertEach _ _ _) fun _ =>
      respects_shown _ fun _ _ => rfl
  | followThrough id =>
    exact respects_onResult fun result harmless =>
      respects_bind (Tamed.onBench fun _ hold => hold.insertResult
        fun trusted => result.withDefaultMessage_invasive.trans (harmless trusted)) fun _ =>
        matches_bind_of (carried.followThrough result) result.yields_followThrough
          fun after same => respects_nameResult (fun trusted => same.trans (harmless trusted)) _
  | panic payload => exact respects_panic payload
  | executed id ran =>
    exact respects_bind (Tamed.aside (fun _ _ => rfl) (fun _ => rfl) fun _ => rfl) fun _ =>
      respects_bind (named fun _ => ⟨rfl, rfl, rfl⟩) fun _ => respects_pure _
  | executedRecord id name =>
    exact respects_onObject fun _ ref _ _ => respects_bind (carried.recordExecuted ref name) fun _ =>
      respects_shown _ fun _ _ => rfl
  | executedNames id => exact respects_onObject fun _ ref _ _ => respects_shown _ fun _ _ => rfl
  | executedContains id name =>
    exact respects_onObject fun _ ref _ _ => respects_shown _ fun _ _ => rfl
  | listener id exits fails =>
    refine Tamed.read (fun _ _ => rfl) fun world _ => respects_bind carried.newSlot fun slot =>
      respects_bind (named fun _ => ⟨rfl, rfl, rfl⟩) fun _ => ?_
    cases world.bench.listeners.get? id with
    | some listener => exact respects_bind listener.respects_stop fun _ => respects_pure _
    | none => exact respects_pure _
  | fire id =>
    exact respects_onObject fun _ listener _ _ => respects_ite
      (respects_bind (named fun _ => ⟨rfl, rfl, rfl⟩) fun _ =>
        respects_bind (listener.respects_trigger _) fun _ => respects_pure _)
      (respects_pure _)
  | dropListener id =>
    exact respects_onObject fun _ listener _ _ => respects_ite
      (respects_bind (named fun _ => ⟨rfl, rfl, rfl⟩) fun _ =>
        respects_bind listener.respects_stop fun _ => respects_pure _)
      (respects_pure _)
  | watch id tactic ledger guard =>
    refine respects_onObject fun _ listener _ _ => respects_onObject fun _ ledger _ _ =>
      respects_bind (carried.setSlot listener.slot _) fun _ =>
        Tamed.read (fun _ _ => rfl) fun world _ =>
          respects_bind (named fun _ => ⟨rfl, rfl, rfl⟩) fun _ => ?_
    cases world.bench.guards.get? guard with
    | some slot =>
      exact respects_bind (carried.setSlot slot none) fun _ => respects_shown _ fun _ _ => rfl
    | none => exact respects_shown _ fun _ _ => rfl
  | unwatch guard =>
    refine Tamed.read (fun _ _ => rfl) fun world _ => ?_
    cases world.bench.guards.get? guard with
    | none => exact respects_pure _
    | some slot =>
      exact respects_bind (named fun _ => ⟨rfl, rfl, rfl⟩) fun _ =>
        respects_bind (carried.setSlot slot none) fun _ => respects_pure _
  | watching id => exact respects_onObject fun _ listener _ _ => respects_shown _ fun _ _ => rfl
  | raise signal => exact respects_raise signal
  | writeFile path content =>
    exact respects_bind (Tamed.aside (fun _ _ => rfl) (fun _ => rfl) fun _ => rfl) fun _ =>
      respects_pure _
  | remove path => exact Tamed.aside (fun _ _ => rfl) (fun _ => rfl) fun _ => rfl
  | tree => exact Tamed.look _ fun _ _ => rfl

theorem respects_runNoted (calm : own.invasive = false) {action : Action}
    (confined : action.Confined names) :
    Respects (Tamed names origin) (runNoted (some own) action) :=
  respects_bind (respects_run calm confined) fun _ => Tamed.emit rfl

theorem respects_runActions (calm : own.invasive = false) {actions : List Action}
    (confined : ∀ action ∈ actions, action.Confined names) :
    Respects (Tamed names origin) (runActions (some own) actions) := by
  induction actions with
  | nil => exact respects_pure ()
  | cons action rest ih =>
    obtain ⟨here, confined⟩ := List.forall_mem_cons.mp confined
    exact respects_bind (respects_runNoted calm here) fun _ => ih confined

theorem respects_movement (calm : own.invasive = false) {step : MovementStep}
    (confined : ∀ action ∈ step.body, action.Confined names) :
    Respects (Tamed names origin) (movement (some own) step) :=
  respects_bind (respects_runActions calm confined) fun _ =>
    Tamed.read (fun _ _ => rfl) fun _ _ => respects_pure _

end Script

end Raid
