import Raid.Script.Command

/-!
Running the commands of a script one after the other. A panic that escapes a command becomes its
answer and the session goes on; the end of the process ends the session.
-/

namespace Raid

structure Session where
  world : World := {}
  tactics : Dict Tactic := {}
  armories : Dict Armory := {}
  vessels : Dict Vessel := {}
  settings : Dict SettingsFile := {}

namespace Session

abbrev Work := Act Session

def onWorld {α : Type} (task : Task α) : Work α := fun state =>
  let (outcome, world) := task state.world
  (outcome, { state with world := world })

def reply (answer : Answer) : Work Response := pure (.answer answer)

def onObject {α : Type} (find : Session → Option α) (id : String) (next : α → Work Response) :
    Work Response := do
  match find (← Act.read) with
  | some object => next object
  | none => reply (.unknownId id)

def onTactic (id : String) : (Tactic → Work Response) → Work Response :=
  onObject (·.tactics.get? id) id

def onArmory (id : String) : (Armory → Work Response) → Work Response :=
  onObject (·.armories.get? id) id

def onVessel (id : String) : (Vessel → Work Response) → Work Response :=
  onObject (·.vessels.get? id) id

def onSettings (id : String) : (SettingsFile → Work Response) → Work Response :=
  onObject (·.settings.get? id) id

def nameTactic (id : String) (tactic : Tactic) : Work Unit :=
  Act.change fun state => { state with tactics := state.tactics.insert id tactic }

def nameArmory (id : String) (armory : Armory) : Work Unit :=
  Act.change fun state => { state with armories := state.armories.insert id armory }

def nameVessel (id : String) (vessel : Vessel) : Work Unit :=
  Act.change fun state => { state with vessels := state.vessels.insert id vessel }

def tacticView (world : World) (tactic : Tactic) : TacticView :=
  { report := tactic.record world, strikeNames := tactic.strikeNames
    executedNames := (world.executed.get tactic.executed).names }

def viewTactic (tactic : Tactic) : Work TacticView := fun state =>
  (.done (tacticView state.world tactic), state)

/-- Runs an action or a movement. A panic still shows the state of the object it worked on. -/
def runStep : Step → Work Response
  | .act action => do
    match ← Act.caught (onWorld (Script.run none action)) with
    | .ok answer => reply answer
    | .error payload => Response.answer <$> onWorld (Script.afterPanic payload action)
  | .movement step => do
    let id := step.id.getD ""
    match ← Act.caught (onWorld (Script.executeNamed none step id)) with
    | .ok answer => reply answer
    | .error payload => Response.answer <$> onWorld (Script.namedAfterPanic payload id)

def withStrikes (source : StrikeSource) (next : List Strike → Work Response) : Work Response :=
  let pick (armory : Armory) (tactic : String) : Work Response :=
    match armory.strikes? tactic with
    | some strikes => next strikes
    | none => reply (.unknownId tactic)
  match source with
  | .inline strikes => next strikes
  | .armory armory tactic => pick armory tactic
  | .armoryNamed id tactic => onArmory id fun armory => pick armory tactic

def withContext (source : ContextSource) (next : StrikeContext → Work Response) :
    Work Response := do
  match source with
  | .inline service invasive vars =>
    next { service, invasive, vars, ledger := ← onWorld Task.newLedger }
  | .named id => onObject (·.world.bench.contexts.get? id) id next

def withExecuted (source : ExecutedSource) (next : Ref ExecutedStrikes → Work Response) :
    Work Response := do
  match source with
  | .inline names => next (← onWorld (Task.newExecuted names))
  | .named id => onObject (·.world.bench.executed.get? id) id next

def withArmory (source : ArmorySource) (next : Armory → Work Response) : Work Response :=
  match source with
  | .inline armory => next armory
  | .named id => onArmory id next

def withSettings (source : SettingsSource) (next : ServiceSettings → Work Response) :
    Work Response :=
  match source with
  | .inline settings output =>
    match readFormat output with
    | .ok output => next { settings with output }
    | .error error => pure (.settingsError error)
  | .file id service environment => onSettings id fun file =>
    match file.serviceSettings service environment with
    | .ok settings => next settings
    | .error error => pure (.settingsError error)

def withSlot (listener : Option String) (next : Option (Ref WatchSlot) → Work Response) :
    Work Response :=
  match listener with
  | none => next none
  | some id => onObject (·.world.bench.listeners.get? id) id fun found => next (some found.slot)

/-- Executes a tactic and keeps it as it is then, after a panic too. -/
def execute (id : String) (tactic : Tactic) : Work Response := fun state =>
  let finish (result : Attempt (Except TacticError Unit)) (after : Execution) :
      Outcome Response × Session :=
    (.done (.executed result (tacticView after.world after.tactic)),
      { state with world := after.world, tactics := state.tactics.insert id after.tactic })
  match Execution.execute ⟨state.world, tactic⟩ with
  | (.done result, after) => finish (.ok result) after
  | (.panicked payload, after) => finish (.error payload) after
  | (.ended ending, after) => (.ended ending, { state with world := after.world })

def mobilize (id : String) (vessel : Vessel) : Work Response := fun state =>
  let finish (result : Attempt (Except VesselError RunSummary)) (after : Voyage) :
      Outcome Response × Session :=
    (.done (.mobilized result (after.vessel.tactics.map (tacticView after.world))
        (after.world.executed.get after.vessel.executed).names),
      { state with world := after.world, vessels := state.vessels.insert id after.vessel })
  match Voyage.mobilize ⟨state.world, vessel⟩ with
  | (.done result, after) => finish (.ok result) after
  | (.panicked payload, after) => finish (.error payload) after
  | (.ended ending, after) => (.ended ending, { state with world := after.world })

def persist (tactic : Tactic) (directory service format : String) : Work Response := do
  match readFormat format with
  | .error error => pure (.settingsError error)
  | .ok format =>
    match ← onWorld (writeTactic directory service tactic format) with
    | .error error => pure (.resultsError error)
    | .ok path =>
      let files := (← Act.read).world.files
      pure (.file path ((files.read path).toOption.getD ""))

/-- The times of a tactic that were set, set to the clock's. -/
def timedNow (now : Moment) (tactic : Tactic) : Tactic :=
  { tactic with
    startTime := tactic.startTime.map fun _ => now
    endTime := tactic.endTime.map fun _ => now }

def load (id path : String) (timed : Bool) : Work Response := do
  match ← onWorld (loadTactic path) with
  | .error error => pure (.resultsError error)
  | .ok tactic =>
    let now := (← Act.read).world.now
    let tactic := if timed then timedNow now tactic else tactic
    nameTactic id tactic
    pure (.tactic (← viewTactic tactic))

def changeOf? (tactic : Tactic) (strike movement change : String) : Option (Ref Change) := do
  let strike ← tactic.strikeResults.get? strike
  let movement ← strike.report.movements.get? movement
  movement.changes.get? change

def keepSettings (id : String) (found : Except SettingsError SettingsFile) : Work Response := do
  match found with
  | .error error => pure (.settingsError error)
  | .ok settings =>
    Act.change fun state => { state with settings := state.settings.insert id settings }
    pure (.settingsFile settings)

def saveSettings (settings : SettingsFile) (path : String) : Work Response := do
  match settings.save (← Act.read).world.files path with
  | .error error => pure (.settingsError error)
  | .ok files =>
    onWorld (Task.setFiles files)
    pure (.text ((files.read path).toOption.getD ""))

def perform : Command → Work Response
  | .step step => runStep step
  | .strikeDebug name => pure (.text (Strike.debugText ⟨name, .scripted {}⟩))
  | .strikeRun context strike => onObject (·.world.bench.contexts.get? context) context
    fun context => do
      let result ← onWorld (strike.run context)
      pure (.struck strike.name ((← Act.read).world.resultView result))
  | .tactic id name strikes context executed listens listener =>
    withStrikes strikes fun strikes => withContext context fun context =>
      withExecuted executed fun executed => withSlot listener fun slot => do
        let tactic : Tactic := { name, strikes, context, executed, listens, slot }
        nameTactic id tactic
        pure (.tactic (← viewTactic tactic))
  | .execute id => onTactic id (execute id)
  | .tacticState id => onTactic id fun tactic => do pure (.tactic (← viewTactic tactic))
  | .persist id directory service format => onTactic id fun tactic =>
    persist tactic directory service format
  | .load id path timed => load id path timed
  | .loadedChange tactic strike movement change id => onTactic tactic fun tactic =>
    onObject (fun _ => changeOf? tactic strike movement change) change fun ref => do
      onWorld (Script.nameChange id ref)
      reply (.change (← onWorld (Script.changeState ref)))
  | .armory id armory => do
    nameArmory id armory
    pure (.armory armory)
  | .armoryAdd id name strikes => onArmory id fun armory => do
    let armory := armory.add name strikes
    nameArmory id armory
    pure (.armory armory)
  | .armoryContains id name => onArmory id fun armory => reply (.flag (armory.contains name))
  | .vessel id settings armory executed listens =>
    withSettings settings fun settings => withArmory armory fun armory =>
      withExecuted executed fun executed => do
        nameVessel id { settings, armory, executed, listens }
        pure (.vessel settings ((← Act.read).world.executed.get executed).names 0)
  | .mobilize id => onVessel id (mobilize id)
  | .settingsParse id text => keepSettings id (SettingsFile.parse text)
  | .settingsLoad id path => do
    keepSettings id (SettingsFile.load (← Act.read).world.files path)
  | .settingsLoadOrDefault id path => do
    keepSettings id (SettingsFile.loadOrDefault (← Act.read).world.files path)
  | .settingsSave id path => onSettings id fun settings => saveSettings settings path
  | .serviceSettings id service environment => onSettings id fun settings =>
    match settings.serviceSettings service environment with
    | .ok settings => pure (.serviceSettings settings)
    | .error error => pure (.settingsError error)

def respond (command : Command) : Work Response := do
  match ← Act.caught (perform command) with
  | .ok response => pure response
  | .error payload => reply (.panicked payload)

/-- What is seen of a whole script: the answers of the commands with the events on the way, and
the events of a command that the process ended in. -/
structure Transcript where
  steps : List (Response × List Event)
  unfinished : List Event
  ending : Ending
  files : FileTree

/-- Runs commands in turn, each with a journal of its own. -/
def run (session : Session) : List Command → Transcript
  | [] => ⟨[], [], .exit 0, session.world.files⟩
  | command :: rest =>
    match respond command { session with world := { session.world with journal := [] } } with
    | (.done response, after) =>
      let others := run after rest
      { others with steps := (response, after.world.journal) :: others.steps }
    | (.panicked _, after) => ⟨[], after.world.journal, .exit 101, after.world.files⟩
    | (.ended ending, after) => ⟨[], after.world.journal, ending, after.world.files⟩

end Session

end Raid
