import Raid.Manager
import Raid.Results.Decoding
import Raid.Script.Action
import Raid.Strike.Result
import Raid.Watch
import Raid.Yaml.Printer

/-!
Running the actions of a script. An action that names an object which does not exist answers so
and does nothing; a panic inside a function of a change is not caught here.
-/

namespace Raid.Script

/-- The context of the strike that the script runs in, if it runs in one. -/
abbrev Scope := Option StrikeContext

/-- The name of the strike's own context and ledger. -/
def ownName : String := "ctx"

def onObject {α : Type} (find : Bench → Option α) (id : String) (next : α → Task Answer) :
    Task Answer := do
  match find (← Act.read).bench with
  | some object => next object
  | none => pure (.unknownId id)

def onChange (id : String) : (Ref Change → Task Answer) → Task Answer :=
  onObject (·.changes.get? id) id

def onManager (id : String) : (ChangeManager → Task Answer) → Task Answer :=
  onObject (·.managers.get? id) id

def onResult (id : String) : (StrikeResult → Task Answer) → Task Answer :=
  onObject (·.results.get? id) id

def onExecuted (id : String) : (Ref ExecutedStrikes → Task Answer) → Task Answer :=
  onObject (·.executed.get? id) id

def onListener (id : String) : (Listener → Task Answer) → Task Answer :=
  onObject (·.listeners.get? id) id

def onContext (scope : Scope) (id : String) : (StrikeContext → Task Answer) → Task Answer :=
  onObject (fun bench => if id = ownName then scope <|> bench.contexts.get? id
    else bench.contexts.get? id) id

def onLedger (scope : Scope) (id : String) : (Ref Ledger → Task Answer) → Task Answer :=
  onObject (fun bench => if id = ownName then scope.map (·.ledger) <|> bench.ledgers.get? id
    else bench.ledgers.get? id) id

def changeState (ref : Ref Change) : Task Change := fun world => (.done (world.change ref), world)

def managerState (manager : ChangeManager) : Task ManagerView := fun world =>
  (.done (world.managerView manager), world)

def resultState (result : StrikeResult) : Task ResultView := fun world =>
  (.done (world.resultView result), world)

def ledgerState (ledger : Ref Ledger) : Task (List Change) := fun world =>
  (.done (world.ledgerChanges ledger), world)

def nameChange (id : String) (ref : Ref Change) : Task Unit :=
  Task.onBench fun bench => { bench with changes := bench.changes.insert id ref }

def nameManager (id : String) (manager : ChangeManager) : Task Unit :=
  Task.onBench fun bench => { bench with managers := bench.managers.insert id manager }

def nameLedger (id : String) (ledger : Ref Ledger) : Task Unit :=
  Task.onBench fun bench => { bench with ledgers := bench.ledgers.insert id ledger }

def nameResult (id : String) (result : StrikeResult) : Task Unit :=
  Task.onBench fun bench => { bench with results := bench.results.insert id result }

def nameListener (id : String) (listener : Listener) : Task Unit :=
  Task.onBench fun bench => { bench with listeners := bench.listeners.insert id listener }

def makeChange (id : String) (change : Change) : Task Answer := do
  let ref ← Task.newChange change
  nameChange id ref
  pure (.change change)

def makeManager (id : String) (manager : ChangeManager) : Task Answer := do
  nameManager id manager
  pure (.manager (← managerState manager))

def preset (result : StrikeResult) : Option (Bool × String × Bool) → StrikeResult
  | none => result
  | some (passed, message, badStateAlert) =>
    result.withReport { result.report with passed, message, badStateAlert }

def decorate (result : StrikeResult) (controlId docsUrl : String)
    (overwrite : Option (Bool × String × Bool)) : StrikeResult :=
  preset (result.withReport { result.report with controlId, docsUrl }) overwrite

def signalNumber (signal : String) : Nat := if signal = "SIGINT" then 2 else 15

/-- Sends a signal to the process. The listener of the process cleans up and exits; without one
the signal kills. -/
def raise (signal : String) : Task Answer := do
  match (← Act.read).processSlot with
  | none => Act.halt (.signal (signalNumber signal))
  | some slot =>
    Listener.trigger { slot, exits := true, fails := false } signal
    pure .nothing

def run (scope : Scope) : Action → Task Answer
  | .change id name description applier reverter =>
    makeChange id { name, description, applier, reverter }
  | .apply id target input => onChange id fun ref => do
    let result ← Change.apply ref target input
    pure (.applied (.ok result) (← changeState ref))
  | .revert id => onChange id fun ref => do
    let result ← Change.revert ref
    pure (.reverted (.ok result) (← changeState ref))
  | .state id => onChange id fun ref => do pure (.change (← changeState ref))
  | .clone id other => onChange id fun ref => do
    nameChange other ref
    pure .nothing
  | .sameAs id other => onChange id fun ref => onChange other fun ref' =>
    pure (.flag (ref = ref'))
  | .changeDebug id => onChange id fun ref => do pure (.text (← changeState ref).debugText)
  | .changeJson id => onChange id fun ref => do
    pure (.value (← changeState ref).record.toJson.normal)
  | .changeYaml id => onChange id fun ref => do
    pure (.text (Yaml.print (← changeState ref).record.toJson))
  | .changeLoad id record =>
    match ChangeRecord.ofNode? record with
    | some record => makeChange id record.toChange
    | none => pure .undecodable
  | .manager id allowed none => makeManager id { allowed }
  | .manager id allowed (some ledger) => onLedger scope ledger fun ref =>
    makeManager id { allowed, ledger := some ref }
  | .managerOfContext id context => onContext scope context fun context =>
    makeManager id context.changeManager
  | .allow id => onManager id fun manager => do
    let manager := { manager with allowed := true }
    nameManager id manager
    pure (.managerChanged (← managerState manager))
  | .forbid id => onManager id fun manager => do
    let manager := { manager with allowed := false }
    nameManager id manager
    pure (.managerChanged (← managerState manager))
  | .add id name change => onManager id fun manager => onChange change fun ref => do
    let manager ← manager.add name ref
    nameManager id manager
    pure (.managerChanged (← managerState manager))
  | .get id name => onManager id fun manager => do
    let found := (manager.changes.get? name).map (← Act.read).change
    pure (.managerGot found (← managerState manager))
  | .managerApply id name target input => onManager id fun manager => do
    let (answer, manager) ← manager.apply name target input
    nameManager id manager
    pure (.managerApplied answer (← managerState manager))
  | .managerRevert id name => onManager id fun manager => do
    let (answer, manager) ← manager.revert name
    nameManager id manager
    pure (.managerReverted answer (← managerState manager))
  | .managerRevertAll id => onManager id fun manager => do
    let (failures, manager) ← manager.revertAll
    nameManager id manager
    pure (.managerSwept failures (← managerState manager))
  | .managerState id => onManager id fun manager => do
    pure (.managerChanged (← managerState manager))
  | .intoChanges id => onManager id fun manager => do
    Task.onBench fun bench => { bench with managers := bench.managers.erase id }
    pure (.changes (← managerState manager).changes)
  | .ledger id => do
    nameLedger id (← Task.newLedger)
    pure .nothing
  | .track ledger change => onLedger scope ledger fun ledger => onChange change fun ref => do
    Ledger.track ledger ref
    pure (.number (← ledgerState ledger).length)
  | .ledgerState ledger => onLedger scope ledger fun ledger => do
    pure (.ledger (← ledgerState ledger))
  | .ledgerRevertAll ledger => onLedger scope ledger fun ledger => do
    let failures ← Ledger.revertAll ledger
    pure (.ledgerSwept failures (← ledgerState ledger))
  | .context id service invasive vars => do
    let ledger ← Task.newLedger
    nameLedger id ledger
    Task.onBench fun bench =>
      { bench with contexts := bench.contexts.insert id { service, invasive, vars, ledger } }
    pure (.context service invasive vars (← ledgerState ledger))
  | .var context name => onContext scope context fun context =>
    pure (.optionalText (context.vars.get? name))
  | .strikeResult id description none controlId docsUrl overwrite => do
    let result := decorate (.standalone description) controlId docsUrl overwrite
    nameResult id result
    pure (.result (← resultState result))
  | .strikeResult id description (some context) controlId docsUrl overwrite =>
    onContext scope context fun context => do
      let result := decorate (context.strikeResult description) controlId docsUrl overwrite
      nameResult id result
      pure (.result (← resultState result))
  | .resultState id => onResult id fun result => do pure (.result (← resultState result))
  | .resultChanges id => onResult id fun result => do
    let world ← Act.read
    pure (.names (result.report.changes.map fun ref => (world.change ref).name))
  | .resultRevertChanges id => onResult id fun result => do
    let failures ← result.revertChanges
    pure (.resultSwept failures (← resultState result))
  | .followThrough id => onResult id fun result => do
    nameResult id result.withDefaultMessage
    let result ← result.followThrough
    nameResult id result
    pure (.result (← resultState result))
  | .panic payload => Act.panic payload
  | .executed id names => do
    let ref ← Task.newExecuted names
    Task.onBench fun bench => { bench with executed := bench.executed.insert id ref }
    pure (.names names)
  | .executedRecord id name => onExecuted id fun ref => do
    Task.recordExecuted ref name
    pure (.names (← Task.executedNames ref))
  | .executedNames id => onExecuted id fun ref => do pure (.names (← Task.executedNames ref))
  | .executedContains id name => onExecuted id fun ref => do
    pure (.flag ((← Task.executedNames ref).contains name))
  | .listener id exits fails => do
    let old := (← Act.read).bench.listeners.get? id
    let slot ← Task.newSlot
    nameListener id { slot, exits, fails }
    match old with
    | some listener => listener.stop
    | none => pure ()
    pure .nothing
  | .fire id => onListener id fun listener => do
    if listener.live then
      nameListener id { listener with live := false }
      listener.trigger "test"
      pure (.text "fired")
    else pure (.text "gone")
  | .dropListener id => onListener id fun listener => do
    if listener.live then
      nameListener id { listener with live := false }
      listener.stop
      pure (.text "dropped")
    else pure (.text "gone")
  | .watch id tactic ledger guard => onListener id fun listener =>
    onLedger scope ledger fun ledger => do
      Watch.begin listener.slot tactic ledger
      let old := (← Act.read).bench.guards.get? guard
      Task.onBench fun bench => { bench with guards := bench.guards.insert guard listener.slot }
      match old with
      | some slot => Watch.finish slot
      | none => pure ()
      pure (.optionalText (← Watch.watching listener.slot))
  | .unwatch guard => do
    match (← Act.read).bench.guards.get? guard with
    | none => pure (.flag false)
    | some slot =>
      Task.onBench fun bench => { bench with guards := bench.guards.erase guard }
      Watch.finish slot
      pure (.flag true)
  | .watching id => onListener id fun listener => do
    pure (.optionalText (← Watch.watching listener.slot))
  | .raise signal => raise signal
  | .writeFile path content => do
    Act.change fun world => { world with files := world.files.plant path content }
    pure .nothing
  | .remove path => fun world =>
    let (found, files) := world.files.prune path
    (.done (.flag found), { world with files := files })
  | .tree => fun world => (.done (.tree world.files.below), world)

/-- What an action answers whose work panicked: the operations on one object still show its
state. -/
def afterPanic (payload : Payload) : Action → Task Answer
  | .apply id .. => onChange id fun ref => do
    pure (.applied (.error payload) (← changeState ref))
  | .revert id => onChange id fun ref => do
    pure (.reverted (.error payload) (← changeState ref))
  | .managerApply id .. => onManager id fun manager => do
    pure (.managerPanicked payload (← managerState manager))
  | .managerRevert id _ => onManager id fun manager => do
    pure (.managerPanicked payload (← managerState manager))
  | .managerRevertAll id => onManager id fun manager => do
    pure (.managerPanicked payload (← managerState manager))
  | .followThrough id => onResult id fun result => do
    pure (.resultPanicked payload (← resultState result))
  | _ => pure (.panicked payload)

def runNoted (scope : Scope) (action : Action) : Task Unit := do
  let answer ← run scope action
  Task.emit (.stepFinished action.label answer)

def runActions (scope : Scope) : List Action → Task Unit
  | [] => pure ()
  | action :: rest => do
    runNoted scope action
    runActions scope rest

def judge (context : Option StrikeContext) (report : MovementReport (Ref Change)) :
    Verdict → MovementReport (Ref Change)
  | .none => report
  | .pass message => report.pass message
  | .fail message => report.fail message
  | .varEquals name value message =>
    match context.bind (·.vars.get? name) with
    | some found => if found = value then report.pass message else report.fail found
    | none => report.fail "unset"

/-- The changes that a plan attaches by name; names that stand for no change are passed over. -/
def plannedChanges (bench : Bench) (plan : MovementPlan) : Dict (Ref Change) :=
  Dict.ofList (plan.changes.entries.filterMap fun entry =>
    (bench.changes.get? entry.2).map fun ref => (entry.1, ref))

def movement (scope : Scope) (step : MovementStep) : Task (MovementReport (Ref Change)) := do
  runActions scope step.body
  let bench := (← Act.read).bench
  let context := match step.context with
    | none => scope
    | some id => if id = ownName then scope <|> bench.contexts.get? id else bench.contexts.get? id
  let report := judge context { description := step.plan.description } step.plan.verdict
  let report := { report with value := step.plan.value }
  let managed := (step.plan.fromManager.bind bench.managers.get?).map ChangeManager.changes
  let report := report.withChanges (managed.getD {})
  pure (report.withChanges (plannedChanges bench step.plan))

def execute (scope : Scope) (step : MovementStep) (result : StrikeResult) : Task StrikeResult :=
  if step.invasive then result.executeInvasiveMovement step.name (movement scope step)
  else result.executeMovement step.name (movement scope step)

def runs (step : MovementStep) (result : StrikeResult) : Bool := !step.invasive || result.invasive

/-- What a movement answers that worked on the result of a name. Inside a strike it shows no more of
the result than a movement on the strike's own. -/
def movementAnswer (scope : Scope) (ran : Bool) (after : StrikeResult) : Task Answer :=
  match scope with
  | none => do pure (.movement ran (← resultState after))
  | some _ => pure (.movementInStrike ran after.report.passed after.report.message)

def executeNamed (scope : Scope) (step : MovementStep) (id : String) : Task Answer :=
  onResult id fun result => do
    let after ← execute scope step result
    nameResult id after
    movementAnswer scope (runs step result) after

def namedAfterPanic (payload : Payload) (id : String) : Task Answer :=
  onResult id fun result => do
    pure (.resultPanicked payload (← resultState result))

/-- Runs a step inside a strike, whose own result it may work on, and notes its answer. -/
def runStep (scope : Scope) (result : StrikeResult) : Step → Task StrikeResult
  | .act action => do
    runNoted scope action
    pure result
  | .movement step => do
    match step.id with
    | some id =>
      let answer ← executeNamed scope step id
      Task.emit (.stepFinished "movement" answer)
      pure result
    | none =>
      let after ← execute scope step result
      Task.emit (.stepFinished "movement"
        (.movementInStrike (runs step result) after.report.passed after.report.message))
      pure after

def runSteps (scope : Scope) (result : StrikeResult) : List Step → Task StrikeResult
  | [] => pure result
  | step :: rest => do
    let result ← runStep scope result step
    runSteps scope result rest

def runStrike (name : String) (script : StrikeScript) (context : StrikeContext) :
    Task StrikeResult := do
  Task.emit (.strikeStarted name context.service context.invasive context.vars)
  let fresh := if script.standalone then .standalone script.description
    else context.strikeResult script.description
  let result := decorate fresh script.controlId script.docsUrl script.preset
  runSteps (some context) result script.steps

end Raid.Script
