import Raid.Tactic.Basic
import Raid.Watch

/-!
Executing a tactic. Its strikes run one after the other, each is followed through before the next
begins, and at the end everything that was registered is reverted once more. The tactic is part of
the state, so that after a panic that nothing caught it is found as it was at that point.
-/

namespace Raid

structure Execution where
  world : World
  tactic : Tactic

namespace Execution

def onWorld {α : Type} (task : Task α) : Act Execution α := fun state =>
  let (outcome, world) := task state.world
  (outcome, { state with world := world })

def onTactic (f : Tactic → Tactic) : Act Execution Unit :=
  Act.change fun state => { state with tactic := f state.tactic }

def tactic? : Act Execution Tactic := fun state => (.done state.tactic, state)

def log (level : LogLevel) (message : String) (fields : List (String × Json) := []) :
    Act Execution Unit := do
  let tactic ← tactic?
  onWorld (Task.log level .tactic message (("tactic", .text tactic.name) :: fields))

def panicMessage : Payload → String
  | .text message => message
  | .unreadable => "non-string panic payload"

/-- The result of a strike that panicked. What was registered is reverted at once. -/
def panickedResult (name : String) (payload : Payload) (ledger : Ref Ledger) :
    Task StrikeResult := do
  let result := StrikeResult.standalone name
  let message := "Strike panicked: " ++ panicMessage payload
  let result := result.withReport { result.report with message }
  Task.emit (.logged ⟨.error, .tactic, [("strike", .text name), ("message", .text message)]⟩)
  let failures ← Ledger.revertAll ledger
  pure (if failures.isEmpty then result else result.alerted)

/-- Runs the body of a strike; a panic in it becomes a failed result. -/
def strikeResult (strike : Strike) (context : StrikeContext) : Task StrikeResult := do
  match ← Act.caught (strike.run context) with
  | .ok result => pure result
  | .error payload => panickedResult strike.name payload context.ledger

def counted (result : StrikeResult) (tactic : Tactic) : Tactic :=
  { tactic with
    badStateAlert := result.report.badStateAlert
    successes := if result.report.passed then tactic.successes + 1 else tactic.successes
    failures := if result.report.passed then tactic.failures else tactic.failures + 1 }

def runStrike (strike : Strike) (context : StrikeContext) : Act Execution Unit := do
  onTactic fun tactic => { tactic with attempts := tactic.attempts + 1 }
  let result ← onWorld (strikeResult strike context)
  let result ← onWorld result.followThrough
  onTactic (counted result)
  let tactic ← tactic?
  if result.report.passed then
    log .info "strike passed" [("strike", .text strike.name)]
  else
    onWorld (Task.emit (.logged ⟨.warn, .tactic,
      [("tactic", .text tactic.name), ("strike", .text strike.name),
        ("message", .text result.report.message)]⟩))
  onWorld (Task.recordExecuted tactic.executed strike.name)
  onTactic fun tactic =>
    { tactic with strikeResults := tactic.strikeResults.insert strike.name result }

/-- Runs strikes in turn. One that was executed before is skipped; after bad state no further one
is run. -/
def runStrikes (before : List String) (context : StrikeContext) : List Strike → Act Execution Unit
  | [] => pure ()
  | strike :: rest => do
    let tactic ← tactic?
    if tactic.badStateAlert then
      log .error "halting remaining strikes after bad state"
    else if strike.name ∈ before then
      log .info "skipping already executed strike" [("strike", .text strike.name)]
      runStrikes before context rest
    else
      runStrike strike context
      runStrikes before context rest

/-- Follows the kept results through once more, in the order of their names. -/
def settleResults : List String → Act Execution Unit
  | [] => pure ()
  | name :: rest => do
    let tactic ← tactic?
    match tactic.strikeResults.get? name with
    | none => pure ()
    | some result =>
      let keep (result : StrikeResult) : Act Execution Unit := onTactic fun tactic =>
        { tactic with strikeResults := tactic.strikeResults.insert name result }
      keep result.withDefaultMessage
      let result ← onWorld result.followThrough
      keep result
    settleResults rest

/-- Reverts everything once more. What is reverted already is left alone. -/
def cleanUp (ledger : Ref Ledger) : Act Execution Unit := do
  let tactic ← tactic?
  settleResults tactic.strikeResults.keys
  let leftovers ← onWorld (Ledger.revertAll ledger)
  onTactic fun tactic =>
    { tactic with
      badStateAlert := !leftovers.isEmpty ||
        tactic.strikeResults.values.any fun result => result.report.badStateAlert }

def watchSlot (tactic : Tactic) : Task (Option (Ref WatchSlot)) := do
  match tactic.slot with
  | some slot => pure (some slot)
  | none => if tactic.listens then some <$> Watch.processSlot else pure none

/-- The last part of an execution: the status and the answer follow from the alert and the
counts. -/
def conclude : Act Execution (Except TacticError Unit) := do
  let now := (← Act.read).world.now
  onTactic fun tactic =>
    { tactic with
      endTime := some now
      status := if tactic.badStateAlert then .haltedBadState else .completed
      passed := !tactic.badStateAlert && tactic.failures == 0 }
  let tactic ← tactic?
  if tactic.badStateAlert then
    log .error "tactic ended in bad state"
    pure (.error (.badState tactic.name))
  else if 0 < tactic.failures then
    log .warn "tactic completed with failed strikes"
      [("succeeded", .nat tactic.successes), ("attempted", .nat tactic.attempts)]
    pure (.error (.strikesFailed tactic.name tactic.successes tactic.attempts))
  else
    log .info "tactic passed" [("attempted", .nat tactic.attempts)]
    pure (.ok ())

/-- Watches the execution while a piece of it runs. When the piece panics the watch ends too. -/
def watched (slot : Option (Ref WatchSlot)) (name : String) (ledger : Ref Ledger)
    (work : Act Execution Unit) : Act Execution Unit := do
  match slot with
  | none => work
  | some slot =>
    onWorld (Watch.begin slot name ledger)
    match ← Act.caught work with
    | .ok () => onWorld (Watch.finish slot)
    | .error payload =>
      onWorld (Watch.finish slot)
      Act.panic payload

/-- The strikes of an execution and the cleaning up after them. While the strikes run the tactic
does not hold them. -/
def runAll (ledger : Ref Ledger) : Act Execution Unit := do
  let now := (← Act.read).world.now
  onTactic fun tactic => { tactic with status := .running, startTime := some now }
  let tactic ← tactic?
  log .info "executing tactic" [("strikes", .nat tactic.strikes.length)]
  let before ← onWorld (Task.executedNames tactic.executed)
  onTactic fun tactic => { tactic with strikes := [] }
  runStrikes before { tactic.context with ledger := ledger } tactic.strikes
  onTactic fun after => { after with strikes := tactic.strikes }
  cleanUp ledger

/-- Executes the tactic, once. -/
def execute : Act Execution (Except TacticError Unit) := do
  let tactic ← tactic?
  if tactic.name.isEmpty then pure (.error .nameUnset)
  else if tactic.status ≠ .notStarted then pure (.error (.alreadyExecuted tactic.name))
  else
    let ledger ← onWorld Task.newLedger
    let slot ← onWorld (watchSlot tactic)
    watched slot tactic.name ledger (runAll ledger)
    conclude

end Execution

end Raid
