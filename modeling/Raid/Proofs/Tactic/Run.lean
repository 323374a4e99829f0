import Raid.Proofs.Strike.FollowThrough
import Raid.Tactic.Execution

/-!
The execution of a tactic taken apart. A strike is run and followed through in the world alone, and
then booked in the tactic; the loop over the strikes is described by the starts of their bodies, and
the execution by its loop and the cleaning up after it.
-/

namespace Raid.Execution

open Act

def closing (strike : Strike) (context : StrikeContext) : Task StrikeResult := do
  let result ← strikeResult strike context
  result.followThrough

def closingOf (body : Task StrikeResult) (name : String) (ledger : Ref Ledger) :
    Task StrikeResult := do
  let result ← (do
    match ← caught body with
    | .ok result => pure result
    | .error payload => panickedResult name payload ledger)
  result.followThrough

theorem closing_eq (strike : Strike) (context : StrikeContext) :
    closing strike context = closingOf (strike.run context) strike.name context.ledger := rfl

def noted (event : Event) (state : Execution) : Execution :=
  { state with world := { state.world with journal := state.world.journal ++ [event] } }

def entry (tactic : Tactic) (level : LogLevel) (message : String)
    (fields : List (String × Json) := []) : Event :=
  .logged ⟨level, .tactic, ("message", .text message) :: ("tactic", .text tactic.name) :: fields⟩

def attempted (state : Execution) : Execution :=
  { state with tactic := { state.tactic with attempts := state.tactic.attempts + 1 } }

def verdict (tactic : Tactic) (strike : Strike) (result : StrikeResult) : Event :=
  if result.report.passed then
    entry tactic .info "strike passed" [("strike", .text strike.name)]
  else
    .logged ⟨.warn, .tactic, [("tactic", .text tactic.name), ("strike", .text strike.name),
      ("message", .text result.report.message)]⟩

def recorded (ref : Ref ExecutedStrikes) (name : String) (world : World) : World :=
  { world with executed := world.executed.set ref ⟨(world.executed.get ref).names ++ [name]⟩ }

def booked (strike : Strike) (result : StrikeResult) (state : Execution) : Execution :=
  let noted := state.noted (verdict state.tactic strike result)
  { world := recorded state.tactic.executed strike.name noted.world
    tactic := { counted result state.tactic with
      strikeResults := state.tactic.strikeResults.insert strike.name result } }

theorem log_eq (level : LogLevel) (message : String) (fields : List (String × Json))
    (state : Execution) :
    log level message fields state =
      (.done (), state.noted (entry state.tactic level message fields)) := rfl

theorem runStrike_eq (strike : Strike) (context : StrikeContext) (state : Execution) :
    runStrike strike context state =
      match closing strike context state.world with
      | (.done result, world) => (.done (), booked strike result { state.attempted with world })
      | (.panicked payload, world) => (.panicked payload, { state.attempted with world })
      | (.ended ending, world) => (.ended ending, { state.attempted with world }) := by
  simp only [runStrike, closing, bind_apply, onTactic, change_apply, onWorld]
  cases ran : strikeResult strike context state.world with
  | mk outcome world =>
    cases outcome with
    | panicked payload => rfl
    | ended ending => rfl
    | done result =>
      simp only [attempted]
      cases followed : result.followThrough world with
      | mk outcome world =>
        cases outcome with
        | panicked payload => rfl
        | ended ending => rfl
        | done kept =>
          cases passed : kept.report.passed with
          | true =>
            simp only [tactic?, booked, verdict, passed, ↓reduceIte]
            rfl
          | false =>
            simp only [tactic?, booked, verdict, passed, Bool.false_eq_true, ↓reduceIte]
            rfl

def finishStrike (body : Task StrikeResult) (strike : Strike) (ledger : Ref Ledger) :
    Act Execution Unit := fun state =>
  match closingOf body strike.name ledger state.world with
  | (.done result, world) => (.done (), booked strike result { state.attempted with world })
  | (.panicked payload, world) => (.panicked payload, { state.attempted with world })
  | (.ended ending, world) => (.ended ending, { state.attempted with world })

theorem runStrike_eq_finishStrike (strike : Strike) (context : StrikeContext) :
    runStrike strike context = finishStrike (strike.run context) strike context.ledger :=
  funext (runStrike_eq strike context)

/-- The body of a strike starts: which strikes come after it, what it is run with, and the state that
it finds. -/
structure Start where
  strike : Strike
  rest : List Strike
  context : StrikeContext
  state : Execution

namespace Start

def run (start : Start) : Outcome StrikeResult × World :=
  start.strike.run start.context start.state.world

def closed (start : Start) : Outcome StrikeResult × World :=
  closing start.strike start.context start.state.world

end Start

def starts (before : List String) (context : StrikeContext) : List Strike → Execution → List Start
  | [], _ => []
  | strike :: rest, state =>
    if state.tactic.badStateAlert then []
    else if strike.name ∈ before then
      starts before context rest (log .info "skipping already executed strike"
        [("strike", .text strike.name)] state).2
    else
      ⟨strike, rest, context, state⟩ ::
        match runStrike strike context state with
        | (.done (), after) => starts before context rest after
        | _ => []

/-- How the loop over the strikes comes out, with the starts on the way. -/
inductive Looped (before : List String) (context : StrikeContext) :
    List Strike → Execution → List Start → Outcome Unit → Execution → Prop
  | finished (state : Execution) : Looped before context [] state [] (.done ()) state
  | halted {strike : Strike} {rest : List Strike} {state : Execution}
    (alert : state.tactic.badStateAlert = true) :
    Looped before context (strike :: rest) state [] (.done ())
      (state.noted (entry state.tactic .error "halting remaining strikes after bad state"))
  | skipped {strike : Strike} {rest : List Strike} {state after : Execution}
    {later : List Start} {outcome : Outcome Unit}
    (calm : state.tactic.badStateAlert = false) (known : strike.name ∈ before)
    (going : Looped before context rest
      (state.noted (entry state.tactic .info "skipping already executed strike"
        [("strike", .text strike.name)])) later outcome after) :
    Looped before context (strike :: rest) state later outcome after
  | ran {strike : Strike} {rest : List Strike} {state after : Execution}
    {later : List Start} {outcome : Outcome Unit} {result : StrikeResult} {world : World}
    (calm : state.tactic.badStateAlert = false) (fresh : strike.name ∉ before)
    (closed : closing strike context state.world = (.done result, world))
    (going : Looped before context rest (booked strike result { state.attempted with world })
      later outcome after) :
    Looped before context (strike :: rest) state (⟨strike, rest, context, state⟩ :: later)
      outcome after
  | panicked {strike : Strike} {rest : List Strike} {state : Execution} {payload : Payload}
    {world : World} (calm : state.tactic.badStateAlert = false) (fresh : strike.name ∉ before)
    (closed : closing strike context state.world = (.panicked payload, world)) :
    Looped before context (strike :: rest) state [⟨strike, rest, context, state⟩]
      (.panicked payload) { state.attempted with world }
  | ended {strike : Strike} {rest : List Strike} {state : Execution} {ending : Ending}
    {world : World} (calm : state.tactic.badStateAlert = false) (fresh : strike.name ∉ before)
    (closed : closing strike context state.world = (.ended ending, world)) :
    Looped before context (strike :: rest) state [⟨strike, rest, context, state⟩]
      (.ended ending) { state.attempted with world }

theorem looped {before : List String} {context : StrikeContext} {strikes : List Strike}
    {state after : Execution} {outcome : Outcome Unit}
    (run : runStrikes before context strikes state = (outcome, after)) :
    Looped before context strikes state (starts before context strikes state) outcome after := by
  induction strikes generalizing state with
  | nil =>
    cases run
    exact .finished _
  | cons strike rest ih =>
    simp only [runStrikes, bind_apply, tactic?] at run
    simp only [starts]
    cases calm : state.tactic.badStateAlert with
    | true =>
      simp only [calm, ↓reduceIte, log_eq] at run ⊢
      cases run
      exact .halted calm
    | false =>
      simp only [calm, Bool.false_eq_true, ↓reduceIte] at run ⊢
      by_cases known : strike.name ∈ before
      · simp only [known, ↓reduceIte, bind_apply, log_eq] at run ⊢
        exact .skipped calm known (ih run)
      · simp only [known, ↓reduceIte, bind_apply, runStrike_eq] at run ⊢
        cases closed : closing strike context state.world with
        | mk ran world =>
          cases ran with
          | done result =>
            simp only [closed] at run ⊢
            exact .ran calm known closed (ih run)
          | panicked payload =>
            simp only [closed] at run ⊢
            cases run
            exact .panicked calm known closed
          | ended ending =>
            simp only [closed] at run ⊢
            cases run
            exact .ended calm known closed

/-- Of the tactic the loop changes the alert, the counts and the kept results alone. -/
theorem Looped.tactic {before : List String} {context : StrikeContext} {strikes : List Strike}
    {state after : Execution} {begun : List Start} {outcome : Outcome Unit}
    (loop : Looped before context strikes state begun outcome after) :
    after.tactic = { state.tactic with
      badStateAlert := after.tactic.badStateAlert, attempts := after.tactic.attempts
      successes := after.tactic.successes, failures := after.tactic.failures
      strikeResults := after.tactic.strikeResults } := by
  induction loop with
  | finished state => rfl
  | halted alert => rfl
  | skipped calm known going ih => exact ih
  | ran calm fresh closed going ih => exact ih
  | panicked calm fresh closed => rfl
  | ended calm fresh closed => rfl

def watchedIn (tactic : Tactic) (world : World) : Option (Ref WatchSlot) × World :=
  match tactic.slot with
  | some slot => (some slot, world)
  | none =>
    if tactic.listens then
      match world.processSlot with
      | some slot => (some slot, world)
      | none =>
        let (slot, slots) := world.slots.add {}
        (some slot, { world with slots := slots, processSlot := some slot })
    else (none, world)

theorem watchSlot_eq (tactic : Tactic) (world : World) :
    watchSlot tactic world = (.done (watchedIn tactic world).1, (watchedIn tactic world).2) := by
  unfold watchSlot watchedIn
  cases tactic.slot with
  | some slot => rfl
  | none =>
    cases tactic.listens with
    | false => rfl
    | true =>
      change (Watch.processSlot >>= fun slot => pure (some slot)) world = _
      simp only [bind_apply, Watch.processSlot, read_apply]
      cases world.processSlot with
      | some slot => rfl
      | none => rfl

theorem watchedIn_world (tactic : Tactic) (world : World) :
    ∃ slots processSlot, (watchedIn tactic world).2 =
      { world with slots := slots, processSlot := processSlot } := by
  unfold watchedIn
  split
  · exact ⟨_, _, rfl⟩
  · split
    · split
      · exact ⟨_, _, rfl⟩
      · exact ⟨_, _, rfl⟩
    · exact ⟨_, _, rfl⟩

def withWatch (slot : Option (Ref WatchSlot)) (watch : Option Watch) (state : Execution) :
    Execution :=
  match slot with
  | none => state
  | some slot =>
    { state with world := { state.world with slots := state.world.slots.set slot ⟨watch⟩ } }

@[simp] theorem tactic_withWatch (slot : Option (Ref WatchSlot)) (watch : Option Watch)
    (state : Execution) : (state.withWatch slot watch).tactic = state.tactic := by
  cases slot <;> rfl

theorem world_withWatch (slot : Option (Ref WatchSlot)) (watch : Option Watch)
    (state : Execution) :
    ∃ slots, (state.withWatch slot watch).world = { state.world with slots := slots } := by
  cases slot with
  | none => exact ⟨state.world.slots, rfl⟩
  | some slot => exact ⟨_, rfl⟩

@[simp] theorem change_withWatch (slot : Option (Ref WatchSlot)) (watch : Option Watch)
    (state : Execution) (ref : Ref Change) :
    (state.withWatch slot watch).world.change ref = state.world.change ref := by
  cases slot <;> rfl

@[simp] theorem ledger_withWatch (slot : Option (Ref WatchSlot)) (watch : Option Watch)
    (state : Execution) (ref : Ref Ledger) :
    (state.withWatch slot watch).world.ledger ref = state.world.ledger ref := by
  cases slot <;> rfl

def ownLedger (state : Execution) : Ref Ledger := (state.world.ledgers.add {}).1

def opened (state : Execution) : Option (Ref WatchSlot) × World :=
  watchedIn state.tactic { state.world with ledgers := (state.world.ledgers.add {}).2 }

def ownContext (state : Execution) : StrikeContext :=
  { state.tactic.context with ledger := state.ownLedger }

def namesBefore (state : Execution) : List String :=
  (state.world.executed.get state.tactic.executed).names

def entered (state : Execution) : Execution :=
  let begun := withWatch state.opened.1 (some ⟨state.tactic.name, state.ownLedger⟩)
    { state with world := state.opened.2 }
  noted (entry state.tactic .info "executing tactic"
      [("strikes", .nat state.tactic.strikes.length)])
    { begun with tactic := { state.tactic with
        status := .running, startTime := some begun.world.now, strikes := [] } }

theorem entered_world (state : Execution) : ∃ slots processSlot journal, state.entered.world =
    { state.world with
      ledgers := (state.world.ledgers.add {}).2, slots := slots, processSlot := processSlot
      journal := journal } := by
  obtain ⟨slots, processSlot, opened⟩ := watchedIn_world state.tactic
    { state.world with ledgers := (state.world.ledgers.add {}).2 }
  obtain ⟨slots', watched⟩ := world_withWatch state.opened.1
    (some ⟨state.tactic.name, state.ownLedger⟩) { state with world := state.opened.2 }
  simp only [entered, noted, watched]
  rw [Execution.opened, opened]
  exact ⟨slots', processSlot, _, rfl⟩

theorem entered_changes (state : Execution) :
    state.entered.world.changes = state.world.changes := by
  obtain ⟨slots, processSlot, journal, same⟩ := state.entered_world
  rw [same]

theorem entered_ledger (state : Execution) : state.entered.world.ledger state.ownLedger = {} := by
  obtain ⟨slots, processSlot, journal, same⟩ := state.entered_world
  rw [World.ledger, same]
  exact Table.get_add_self _ _

def started (state : Execution) : List Start :=
  if state.tactic.name.isEmpty || state.tactic.status ≠ .notStarted then []
  else starts state.namesBefore state.ownContext state.tactic.strikes state.entered

def restored (strikes : List Strike) (state : Execution) : Execution :=
  { state with tactic := { state.tactic with strikes := strikes } }

def answer (tactic : Tactic) : Except TacticError Unit :=
  if tactic.badStateAlert then .error (.badState tactic.name)
  else if 0 < tactic.failures then
    .error (.strikesFailed tactic.name tactic.successes tactic.attempts)
  else .ok ()

def finished (now : Moment) (tactic : Tactic) : Tactic :=
  { tactic with
    endTime := some now
    status := if tactic.badStateAlert then .haltedBadState else .completed
    passed := !tactic.badStateAlert && tactic.failures == 0 }

def concluded (slot : Option (Ref WatchSlot)) (event : Event) (cleaned : Execution) : Execution :=
  noted event { cleaned.withWatch slot none with
    tactic := finished (cleaned.withWatch slot none).world.now cleaned.tactic }

@[simp] theorem change_concluded (slot : Option (Ref WatchSlot)) (event : Event)
    (cleaned : Execution) (ref : Ref Change) :
    (concluded slot event cleaned).world.change ref = cleaned.world.change ref :=
  change_withWatch slot none cleaned ref

@[simp] theorem ledger_concluded (slot : Option (Ref WatchSlot)) (event : Event)
    (cleaned : Execution) (ref : Ref Ledger) :
    (concluded slot event cleaned).world.ledger ref = cleaned.world.ledger ref :=
  ledger_withWatch slot none cleaned ref

theorem conclude_eq (state : Execution) :
    ∃ event, conclude state =
      (.done (answer state.tactic),
        noted event { state with tactic := finished state.world.now state.tactic }) := by
  simp only [conclude, bind_apply, read_apply, onTactic, change_apply, tactic?, answer, finished]
  cases state.tactic.badStateAlert with
  | true => exact ⟨_, rfl⟩
  | false =>
    by_cases failed : 0 < state.tactic.failures
    · simp only [failed, Bool.false_eq_true, ↓reduceIte]
      exact ⟨_, rfl⟩
    · simp only [failed, Bool.false_eq_true, ↓reduceIte]
      exact ⟨_, rfl⟩

theorem lasts_onWorld {α : Type} {task : Task α} (lasts : Lasts task) : Lasts (onWorld task) :=
  fun state ending => lasts state.world ending

theorem lasts_settleResults (names : List String) : Lasts (settleResults names) := by
  induction names with
  | nil => exact lasts_pure ()
  | cons name rest ih =>
    refine lasts_bind (lasts_of_done fun _ => rfl) fun tactic => ?_
    cases tactic.strikeResults.get? name with
    | none => exact ih
    | some result =>
      exact lasts_bind (lasts_of_done fun _ => rfl) fun _ =>
        lasts_bind (lasts_onWorld result.lasts_followThrough) fun _ =>
          lasts_bind (lasts_of_done fun _ => rfl) fun _ => ih

theorem lasts_cleanUp (ledger : Ref Ledger) : Lasts (cleanUp ledger) :=
  lasts_bind (lasts_of_done fun _ => rfl) fun _ =>
    lasts_bind (lasts_settleResults _) fun _ =>
      lasts_bind (lasts_onWorld (Ledger.lasts_revertAll ledger)) fun _ =>
        lasts_of_done fun _ => rfl

/-- How an execution comes out, by its loop over the strikes and the cleaning up after it. -/
inductive Executed (state : Execution) : Outcome (Except TacticError Unit) → Execution → Prop
  | returned {looped cleaned : Execution} (event : Event)
    (loop : Looped state.namesBefore state.ownContext state.tactic.strikes state.entered
      state.started (.done ()) looped)
    (swept : cleanUp state.ownLedger (looped.restored state.tactic.strikes) = (.done (), cleaned)) :
    Executed state (.done (answer cleaned.tactic)) (concluded state.opened.1 event cleaned)
  | interrupted {looped : Execution} {payload : Payload}
    (loop : Looped state.namesBefore state.ownContext state.tactic.strikes state.entered
      state.started (.panicked payload) looped) :
    Executed state (.panicked payload) (looped.withWatch state.opened.1 none)
  | unswept {looped cleaned : Execution} {payload : Payload}
    (loop : Looped state.namesBefore state.ownContext state.tactic.strikes state.entered
      state.started (.done ()) looped)
    (swept : cleanUp state.ownLedger (looped.restored state.tactic.strikes) =
      (.panicked payload, cleaned)) :
    Executed state (.panicked payload) (cleaned.withWatch state.opened.1 none)
  | ended {looped : Execution} {ending : Ending}
    (loop : Looped state.namesBefore state.ownContext state.tactic.strikes state.entered
      state.started (.ended ending) looped) : Executed state (.ended ending) looped

/-- Watched work: the slot holds the watch while it runs, and is empty when it is done or has
panicked. -/
theorem watched_eq (slot : Option (Ref WatchSlot)) (name : String) (ledger : Ref Ledger)
    (work : Act Execution Unit) (state : Execution) :
    watched slot name ledger work state =
      match work (state.withWatch slot (some ⟨name, ledger⟩)) with
      | (.done (), after) => (.done (), after.withWatch slot none)
      | (.panicked payload, after) => (.panicked payload, after.withWatch slot none)
      | (.ended ending, after) => (.ended ending, after) := by
  cases slot with
  | none =>
    simp only [watched, withWatch]
    rcases work state with ⟨⟨⟩ | payload | ending, after⟩ <;> rfl
  | some slot =>
    simp only [watched, withWatch, bind_apply, onWorld, Watch.begin, Task.setSlot, change_apply,
      caught]
    rcases work _ with ⟨⟨⟩ | payload | ending, after⟩ <;> rfl

theorem runAll_eq (state : Execution) :
    runAll state.ownLedger (withWatch state.opened.1 (some ⟨state.tactic.name, state.ownLedger⟩)
        { state with world := state.opened.2 }) =
      (runStrikes state.namesBefore state.ownContext state.tactic.strikes >>= fun _ =>
        change (restored state.tactic.strikes) >>= fun _ => cleanUp state.ownLedger)
          state.entered := by
  obtain ⟨slots, processSlot, opened⟩ := watchedIn_world state.tactic
    { state.world with ledgers := (state.world.ledgers.add {}).2 }
  obtain ⟨slots', watched⟩ := world_withWatch state.opened.1
    (some ⟨state.tactic.name, state.ownLedger⟩) { state with world := state.opened.2 }
  have names : ((withWatch state.opened.1 (some ⟨state.tactic.name, state.ownLedger⟩)
      { state with world := state.opened.2 }).world.executed.get state.tactic.executed).names =
      state.namesBefore := by
    rw [watched, Execution.opened, opened]
    rfl
  simp only [runAll, bind_apply, read_apply, onTactic, change_apply, tactic?, log_eq, onWorld,
    Task.executedNames, tactic_withWatch, noted, names]
  rfl

theorem execute_unnamed {state : Execution} (unnamed : state.tactic.name.isEmpty = true) :
    execute state = (.done (.error .nameUnset), state) := by
  simp only [execute, bind_apply, tactic?, unnamed, ↓reduceIte]
  rfl

theorem execute_again {state : Execution} (named : state.tactic.name.isEmpty = false)
    (again : state.tactic.status ≠ .notStarted) :
    execute state = (.done (.error (.alreadyExecuted state.tactic.name)), state) := by
  simp only [execute, bind_apply, tactic?, named, again, Bool.false_eq_true, ↓reduceIte, ne_eq,
    not_false_eq_true]
  rfl

theorem execute_eq {state : Execution} (named : state.tactic.name.isEmpty = false)
    (fresh : state.tactic.status = .notStarted) :
    execute state =
      (watched state.opened.1 state.tactic.name state.ownLedger (runAll state.ownLedger) >>=
        fun _ => conclude) { state with world := state.opened.2 } := by
  simp only [execute, bind_apply, tactic?, named, fresh, Bool.false_eq_true, ↓reduceIte, ne_eq,
    not_true_eq_false, onWorld, Task.newLedger, watchSlot_eq]
  rfl

/-- The end of an execution: this work over its strikes is done, everything is cleaned up, and when
that comes to an end the tactic is watched no more and answers. -/
def afterwards (state : Execution) (work : Act Execution Unit) :
    Act Execution (Except TacticError Unit) := fun begun =>
  match (work >>= fun _ => change (restored state.tactic.strikes) >>= fun _ =>
      cleanUp state.ownLedger) begun with
  | (.done (), after) => conclude (after.withWatch state.opened.1 none)
  | (.panicked payload, after) => (.panicked payload, after.withWatch state.opened.1 none)
  | (.ended ending, after) => (.ended ending, after)

theorem execute_eq_afterwards {state : Execution} (named : state.tactic.name.isEmpty = false)
    (fresh : state.tactic.status = .notStarted) :
    execute state = state.afterwards
      (runStrikes state.namesBefore state.ownContext state.tactic.strikes) state.entered := by
  rw [execute_eq named fresh, bind_apply, watched_eq, runAll_eq, afterwards]
  cases (runStrikes state.namesBefore state.ownContext state.tactic.strikes >>= fun _ =>
      change (restored state.tactic.strikes) >>= fun _ => cleanUp state.ownLedger)
        state.entered with
  | mk outcome after => cases outcome <;> rfl

theorem executed {state after : Execution} {outcome : Outcome (Except TacticError Unit)}
    (named : state.tactic.name.isEmpty = false) (fresh : state.tactic.status = .notStarted)
    (run : execute state = (outcome, after)) : Executed state outcome after := by
  have same : state.started =
      starts state.namesBefore state.ownContext state.tactic.strikes state.entered := by
    simp [started, named, fresh]
  rw [execute_eq named fresh, bind_apply, watched_eq, runAll_eq, bind_apply] at run
  cases ran : runStrikes state.namesBefore state.ownContext state.tactic.strikes state.entered with
  | mk outcome middle =>
    have loop := looped ran
    rw [← same] at loop
    rw [ran] at run
    cases outcome with
    | ended ending =>
      cases run
      exact .ended loop
    | panicked payload =>
      cases run
      exact .interrupted loop
    | done value =>
      simp only [bind_apply, change_apply] at run
      cases swept : cleanUp state.ownLedger (middle.restored state.tactic.strikes) with
      | mk outcome cleaned =>
        rw [swept] at run
        cases outcome with
        | ended ending => exact absurd swept (lasts_cleanUp _).not_ended
        | panicked payload =>
          cases run
          exact .unswept loop swept
        | done value =>
          obtain ⟨event, ending⟩ := conclude_eq (cleaned.withWatch state.opened.1 none)
          simp only [ending, tactic_withWatch] at run
          cases run
          exact .returned event loop swept

end Raid.Execution
