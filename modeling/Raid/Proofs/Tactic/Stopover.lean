import Raid.Proofs.Script.Stopover
import Raid.Proofs.Tactic.Run

/-!
The execution of a tactic in two runs of which the second makes one ledger more. The execution has
a ledger of its own and does not look at the one that the tactic's context came with, so that this
may be another one in the second run. Both come to the same answer and start the same bodies in the
same order, and these come to the same reports.
-/

namespace Raid

open Act

def Stopover.tactic (stop : Stopover) (own : Ref Ledger) (tactic : Tactic) : Tactic :=
  { tactic with
    context := { tactic.context with ledger := own }
    strikeResults := tactic.strikeResults.map stop.result }

namespace Execution

open Stopover

/-- The worlds are abreast, and the tactic is the same but for the numbers of ledgers. -/
structure Abreast (stop : Stopover) (own : Ref Ledger) (first second : Execution) : Prop where
  world : first.world.Abreast stop second.world
  tactic : second.tactic = stop.tactic own first.tactic

def Roomy (stop : Stopover) (state : Execution) : Prop := stop.Room state.world

abbrev Along (stop : Stopover) (own : Ref Ledger) {α β : Type} (f : α → β) (work : Act Execution α)
    (other : Act Execution β) : Prop :=
  Parallel (Abreast stop own) (Roomy stop) f work other

variable {stop : Stopover} {own : Ref Ledger} {α β : Type} {f : α → β}

theorem along_onWorld {task : Task α} {other : Task β} (inner : stop.Along f task other) :
    Along stop own f (onWorld task) (onWorld other) where
  roomy state := inner.roomy state.world
  alike first second abreast room :=
    have ⟨same, world⟩ := inner.alike first.world second.world abreast.world room
    ⟨same, world, abreast.tactic⟩

theorem along_onTactic {g g' : Tactic → Tactic}
    (same : ∀ tactic, g' (stop.tactic own tactic) = stop.tactic own (g tactic)) :
    Along stop own id (onTactic g) (onTactic g') where
  roomy _ := id
  alike first _ abreast _ :=
    ⟨rfl, abreast.world, (congrArg g' abreast.tactic).trans (same first.tactic)⟩

theorem along_tactic? {next : Tactic → Act Execution α} {next' : Tactic → Act Execution β}
    (rest : ∀ tactic, Along stop own f (next tactic) (next' (stop.tactic own tactic))) :
    Along stop own f (tactic? >>= next) (tactic? >>= next') where
  roomy state := (rest state.tactic).roomy state
  alike first second abreast room := by
    have alike := (rest first.tactic).alike first second abreast room
    rw [← abreast.tactic] at alike
    exact alike

theorem along_now {next : Execution → Act Execution α} {next' : Execution → Act Execution β}
    (timed : ∀ first second, second.world.now = first.world.now → next' second = next' first)
    (rest : ∀ state, Along stop own f (next state) (next' state)) :
    Along stop own f (Act.read >>= next) (Act.read >>= next') := by
  exact parallel_read next' (fun first second abreast => timed first second abreast.world.now) rest

theorem along_log (level : LogLevel) (message : String) (fields : List (String × Json)) :
    Along stop own id (log level message fields) (log level message fields) :=
  along_tactic? fun _ => along_onWorld (Stopover.along_log _ _ _ _)

theorem along_panickedResult (name : String) (payload : Payload) (ledger : Ref Ledger) :
    stop.Along stop.result (panickedResult name payload ledger)
      (panickedResult name payload (stop.ledger ledger)) :=
  parallel_bind_same (along_emit _) fun _ =>
    parallel_bind_same (Ledger.along_revertAll ledger) fun failures => parallel_pure <| by
      rw [apply_ite stop.result]
      rfl

theorem along_strikeResult (strike : Strike) (context : StrikeContext) :
    stop.Along stop.result (strikeResult strike context)
      (strikeResult strike (stop.context context)) := by
  refine parallel_bind (parallel_caught (strike.along_run context)) fun answer => ?_
  cases answer with
  | ok result => exact parallel_pure rfl
  | error payload => exact along_panickedResult strike.name payload context.ledger

theorem along_closing (strike : Strike) (context : StrikeContext) :
    stop.Along stop.result (closing strike context) (closing strike (stop.context context)) :=
  parallel_bind (along_strikeResult strike context) fun result => result.along_followThrough

theorem along_keep (name : String) (result : StrikeResult) :
    Along stop own id
      (onTactic fun tactic =>
        { tactic with strikeResults := tactic.strikeResults.insert name result })
      (onTactic fun tactic =>
        { tactic with strikeResults := tactic.strikeResults.insert name (stop.result result) }) :=
  along_onTactic fun tactic => by simp only [Stopover.tactic, Dict.map_insert]

theorem along_runStrike (strike : Strike) (context : StrikeContext) :
    Along stop own id (runStrike strike context) (runStrike strike (stop.context context)) := by
  refine parallel_bind_same (along_onTactic fun _ => rfl) fun _ =>
    parallel_bind (along_onWorld (along_strikeResult strike context)) fun result =>
      parallel_bind (along_onWorld result.along_followThrough) fun result =>
        parallel_bind_same (along_onTactic fun _ => rfl) fun _ => along_tactic? fun tactic =>
          parallel_ite (parallel_bind_same (along_log _ _ _) fun _ => ?_)
            (parallel_bind_same (along_onWorld (along_emit _)) fun _ => ?_)
  all_goals
    exact parallel_bind_same (along_onWorld (along_recordExecuted _ _)) fun _ =>
      along_keep strike.name result

theorem along_runStrikes (before : List String) (context : StrikeContext) (strikes : List Strike) :
    Along stop own id (runStrikes before context strikes)
      (runStrikes before (stop.context context) strikes) := by
  induction strikes with
  | nil => exact parallel_pure rfl
  | cons strike rest ih =>
    exact along_tactic? fun tactic => parallel_ite (along_log _ _ _)
      (parallel_ite (parallel_bind_same (along_log _ _ _) fun _ => ih)
        (parallel_bind_same (along_runStrike strike context) fun _ => ih))

theorem along_settleResults (names : List String) :
    Along stop own id (settleResults names) (settleResults names) := by
  induction names with
  | nil => exact parallel_pure rfl
  | cons name rest ih =>
    refine along_tactic? fun tactic => ?_
    have found : (stop.tactic own tactic).strikeResults.get? name =
        (tactic.strikeResults.get? name).map stop.result :=
      Dict.get?_map _ tactic.strikeResults name
    rw [found]
    cases tactic.strikeResults.get? name with
    | none => exact ih
    | some result =>
      have message : (stop.result result).withDefaultMessage =
          stop.result result.withDefaultMessage := result.result_withDefaultMessage
      simp only [Option.map_some, message]
      exact parallel_bind_same (along_keep name _) fun _ =>
        parallel_bind (along_onWorld result.along_followThrough) fun result =>
          parallel_bind_same (along_keep name result) fun _ => ih

theorem along_cleanUp (ledger : Ref Ledger) :
    Along stop own id (cleanUp ledger) (cleanUp (stop.ledger ledger)) := by
  refine along_tactic? fun tactic => ?_
  have keys : (stop.tactic own tactic).strikeResults.keys = tactic.strikeResults.keys :=
    Dict.keys_map _ tactic.strikeResults
  rw [keys]
  refine parallel_bind_same (along_settleResults _) fun _ =>
    parallel_bind_same (along_onWorld (Ledger.along_revertAll ledger)) fun leftovers =>
      along_onTactic fun tactic => ?_
  simp only [Stopover.tactic, Dict.values_map, List.any_map]
  rfl

theorem along_watchSlot (tactic : Tactic) :
    stop.Along id (watchSlot tactic) (watchSlot (stop.tactic own tactic)) := by
  simp only [watchSlot, Stopover.tactic]
  cases tactic.slot with
  | some slot => exact parallel_pure rfl
  | none =>
    exact parallel_ite (parallel_bind_same Watch.along_processSlot fun _ => parallel_pure rfl)
      (parallel_pure rfl)

theorem along_conclude : Along stop own id conclude conclude :=
  along_now (fun _ _ now => by simp only [now]) fun _ =>
    parallel_bind_same (along_onTactic fun _ => rfl) fun _ => along_tactic? fun _ =>
    parallel_ite (parallel_bind_same (along_log _ _ _) fun _ => parallel_pure rfl)
      (parallel_ite (parallel_bind_same (along_log _ _ _) fun _ => parallel_pure rfl)
        (parallel_bind_same (along_log _ _ _) fun _ => parallel_pure rfl))

theorem along_watched (slot : Option (Ref WatchSlot)) (name : String) (ledger : Ref Ledger)
    {work other : Act Execution Unit} (inner : Along stop own id work other) :
    Along stop own id (watched slot name ledger work)
      (watched slot name (stop.ledger ledger) other) := by
  cases slot with
  | none => exact inner
  | some slot =>
    refine parallel_bind_same (along_onWorld (along_setSlot slot (some ⟨name, ledger⟩))) fun _ =>
      parallel_bind (parallel_caught inner) fun answer => ?_
    cases answer with
    | ok value => exact along_onWorld (along_setSlot slot none)
    | error payload =>
      exact parallel_bind_same (along_onWorld (along_setSlot slot none)) fun _ =>
        parallel_panic payload

theorem along_runAll (ledger : Ref Ledger) :
    Along stop own id (runAll ledger) (runAll (stop.ledger ledger)) :=
  along_now (fun _ _ now => by simp only [now]) fun _ =>
    parallel_bind_same (along_onTactic fun _ => rfl) fun _ =>
    along_tactic? fun tactic => parallel_bind_same (along_log _ _ _) fun _ =>
      parallel_bind_same (along_onWorld (along_executedNames _)) fun before =>
        parallel_bind_same (along_onTactic fun _ => rfl) fun _ =>
          parallel_bind_same (along_runStrikes before { tactic.context with ledger } tactic.strikes)
            fun _ => parallel_bind_same (along_onTactic fun _ => rfl) fun _ => along_cleanUp ledger

/-- The execution of a tactic comes to the same answer on both sides. -/
theorem along_execute : Along stop own id execute execute :=
  along_tactic? fun tactic => parallel_ite (parallel_pure rfl) (parallel_ite (parallel_pure rfl)
    (parallel_bind (along_onWorld along_newLedger) fun ledger =>
      parallel_bind_same (along_onWorld (along_watchSlot tactic)) fun slot =>
        parallel_bind_same (along_watched slot tactic.name ledger (along_runAll ledger)) fun _ =>
          along_conclude))

/-- What is seen of a strike that was executed: the strike, and how it came out. -/
def Start.seen (start : Start) : Strike × Outcome (StrikeReport (Ref Change)) :=
  (start.strike, start.closed.1.map (·.report))

theorem Abreast.seen {first second : Execution} (abreast : Abreast stop own first second)
    {strike : Strike} {context : StrikeContext} (rest : List Strike)
    (room : Roomy stop (runStrike strike context first).2) :
    Start.seen ⟨strike, rest, stop.context context, second⟩ =
      Start.seen ⟨strike, rest, context, first⟩ := by
  have ledgers : (runStrike strike context first).2.world.ledgers =
      (closing strike context first.world).2.ledgers := by
    rw [runStrike_eq]
    rcases closing strike context first.world with ⟨result | payload | ending, world⟩ <;> rfl
  rw [Roomy, Stopover.Room, ledgers] at room
  obtain ⟨same, -⟩ :=
    (along_closing strike context).alike first.world second.world abreast.world room
  simp only [Start.seen, Start.closed, same, Outcome.map_map]
  rfl

/-- The loop over the strikes starts the same bodies in the same order, with the same reports. -/
theorem Abreast.starts {first second : Execution} (abreast : Abreast stop own first second)
    {before : List String} {context : StrikeContext} {strikes : List Strike}
    (room : Roomy stop (runStrikes before context strikes first).2) :
    (starts before (stop.context context) strikes second).map Start.seen =
      (starts before context strikes first).map Start.seen := by
  induction strikes generalizing first second with
  | nil => rfl
  | cons strike rest ih =>
    have alert : second.tactic.badStateAlert = first.tactic.badStateAlert := by
      rw [abreast.tactic]
      rfl
    have later : Along stop own id (runStrikes before context rest)
        (runStrikes before (stop.context context) rest) := along_runStrikes before context rest
    rw [runStrikes, bind_apply, tactic?] at room
    simp only [Execution.starts, alert]
    cases calm : first.tactic.badStateAlert with
    | true => rfl
    | false =>
      simp only [calm, Bool.false_eq_true, ↓reduceIte] at room ⊢
      by_cases known : strike.name ∈ before
      · simp only [known, ↓reduceIte] at room ⊢
        exact ih ((along_log _ _ _).alike first second abreast (later.roomy _ room)).2 room
      · simp only [known, ↓reduceIte] at room ⊢
        have roomy := roomy_of_bind (fun _ => later.roomy) room
        obtain ⟨same, left⟩ := (along_runStrike strike context).alike first second abreast roomy
        rw [List.map_cons, List.map_cons, abreast.seen rest roomy]
        rw [bind_apply] at room
        cases run : runStrike strike context first with
        | mk outcome middle =>
          cases run' : runStrike strike (stop.context context) second with
          | mk outcome' middle' =>
            rw [run, run'] at same left
            rw [run] at room
            cases same
            cases outcome with
            | done value => exact congrArg _ (ih left room)
            | panicked payload => rfl
            | ended ending => rfl

theorem Abreast.withWatch {first second : Execution} (abreast : Abreast stop own first second)
    (room : Roomy stop first) (slot : Option (Ref WatchSlot)) (watch : Option Watch) :
    Abreast stop own (first.withWatch slot watch)
      (second.withWatch slot (watch.map stop.watch)) := by
  cases slot with
  | none => exact abreast
  | some slot =>
    exact ((along_onWorld (along_setSlot slot watch)).alike first second abreast room).2

theorem Abreast.opened {first second : Execution} (abreast : Abreast stop own first second)
    (room : stop.Room first.opened.2) :
    second.opened.1 = first.opened.1 ∧ second.ownLedger = stop.ledger first.ownLedger ∧
      first.opened.2.Abreast stop second.opened.2 := by
  have opening : stop.Along id (watchSlot first.tactic) (watchSlot second.tactic) := by
    rw [abreast.tactic]
    exact along_watchSlot first.tactic
  have watched : (watchSlot first.tactic { first.world with
      ledgers := (first.world.ledgers.add {}).2 }).2 = first.opened.2 := by
    rw [watchSlot_eq]
    rfl
  rw [← watched] at room
  obtain ⟨ledger, ledgers⟩ :=
    along_newLedger.alike first.world second.world abreast.world (opening.roomy _ room)
  obtain ⟨slot, worlds⟩ := opening.alike _ _ ledgers room
  rw [Task.newLedger, Task.newLedger, watchSlot_eq, watchSlot_eq] at slot worlds
  exact ⟨Outcome.done.inj slot, Outcome.done.inj ledger, worlds⟩

theorem roomy_opened {state : Execution} (room : Roomy stop state.entered) :
    stop.Room state.opened.2 := by
  obtain ⟨slots, watched⟩ := world_withWatch state.opened.1
    (some ⟨state.tactic.name, state.ownLedger⟩) { state with world := state.opened.2 }
  have ledgers : state.entered.world.ledgers = state.opened.2.ledgers := by
    simp only [Execution.entered, noted, watched]
  rwa [Roomy, Stopover.Room, ledgers] at room

theorem Abreast.entered {first second : Execution} (abreast : Abreast stop own first second)
    (room : Roomy stop first.entered) : Abreast stop own first.entered second.entered := by
  have roomy := roomy_opened room
  obtain ⟨slot, ledger, opened⟩ := abreast.opened roomy
  have began : Abreast stop own { first with world := first.opened.2 }
      { second with world := second.opened.2 } := ⟨opened, abreast.tactic⟩
  have watched := began.withWatch roomy first.opened.1
    (some ⟨first.tactic.name, first.ownLedger⟩)
  have noted := ((along_onWorld (along_emit (entry first.tactic .info "executing tactic"
      [("strikes", .nat first.tactic.strikes.length)]))).alike _ _ watched room).2
  have now := noted.world.now
  have name : second.tactic.name = first.tactic.name := by
    rw [abreast.tactic]
    rfl
  have told : entry second.tactic .info "executing tactic"
      [("strikes", .nat second.tactic.strikes.length)] =
      entry first.tactic .info "executing tactic"
        [("strikes", .nat first.tactic.strikes.length)] := by
    rw [abreast.tactic]
    rfl
  rw [Execution.entered, Execution.entered, slot, ledger, told, name]
  have timed : (Execution.withWatch first.opened.1
        ((some ⟨first.tactic.name, first.ownLedger⟩ : Option Watch).map stop.watch)
        { world := second.opened.2, tactic := second.tactic }).world.now =
      (Execution.withWatch first.opened.1 (some ⟨first.tactic.name, first.ownLedger⟩)
        { world := first.opened.2, tactic := first.tactic }).world.now := watched.world.now
  refine ⟨noted.world, ?_⟩
  simp only [Execution.noted]
  rw [abreast.tactic] at timed ⊢
  exact congrArg (fun now => stop.tactic own { first.tactic with
    status := .running, startTime := some now, strikes := [] }) timed

/-- Where there is room at the end of an execution, there was room at the end of its loop. -/
theorem roomy_of_afterwards {state begun : Execution} {before : List String}
    {context : StrikeContext} {strikes : List Strike}
    (room : Roomy stop (state.afterwards (runStrikes before context strikes) begun).2) :
    Roomy stop (runStrikes before context strikes begun).2 := by
  have cleaning : Along stop state.ownLedger id
      (onTactic (fun tactic => { tactic with strikes := state.tactic.strikes }) >>= fun _ =>
        cleanUp state.ownLedger)
      (onTactic (fun tactic => { tactic with strikes := state.tactic.strikes }) >>= fun _ =>
        cleanUp (stop.ledger state.ownLedger)) :=
    parallel_bind_same (along_onTactic fun _ => rfl) fun _ => along_cleanUp state.ownLedger
  have concluding : Along stop state.ownLedger id conclude conclude := along_conclude
  refine roomy_of_bind (fun _ => cleaning.roomy) ?_
  unfold afterwards at room
  change Roomy stop ((runStrikes before context strikes >>= fun _ =>
    change (restored state.tactic.strikes) >>= fun _ => cleanUp state.ownLedger) begun).2
  have unwatched {after : Execution} (room : Roomy stop (after.withWatch state.opened.1 none)) :
      Roomy stop after := by
    obtain ⟨slots, world⟩ := world_withWatch state.opened.1 none after
    rwa [Roomy, world] at room
  cases run : (runStrikes before context strikes >>= fun _ =>
      change (restored state.tactic.strikes) >>= fun _ => cleanUp state.ownLedger) begun with
  | mk outcome after =>
    rw [run] at room
    cases outcome with
    | done value => exact unwatched (concluding.roomy _ room)
    | panicked payload => exact unwatched room
    | ended ending => exact room

theorem Abreast.started {first second : Execution} (abreast : Abreast stop own first second)
    (room : Roomy stop (execute first).2) :
    second.started.map Start.seen = first.started.map Start.seen := by
  have name : second.tactic.name = first.tactic.name := by
    rw [abreast.tactic]
    rfl
  have status : second.tactic.status = first.tactic.status := by
    rw [abreast.tactic]
    rfl
  simp only [Execution.started, name, status]
  cases bare : first.tactic.name.isEmpty with
  | true => rfl
  | false =>
    by_cases fresh : first.tactic.status = .notStarted
    case neg => simp [fresh]
    rw [execute_eq_afterwards bare fresh] at room
    have looped := roomy_of_afterwards room
    have loop : Along stop own id
        (runStrikes first.namesBefore first.ownContext first.tactic.strikes)
        (runStrikes first.namesBefore (stop.context first.ownContext) first.tactic.strikes) :=
      along_runStrikes _ _ _
    have roomy := loop.roomy _ looped
    have entered := abreast.entered roomy
    obtain ⟨-, ledger, -⟩ := abreast.opened (roomy_opened roomy)
    have context : second.ownContext = stop.context first.ownContext := by
      rw [ownContext, ownContext, ledger, abreast.tactic]
      rfl
    have before : second.namesBefore = first.namesBefore := by
      rw [namesBefore, namesBefore, abreast.world.executed, abreast.tactic]
      rfl
    have strikes : second.tactic.strikes = first.tactic.strikes := by
      rw [abreast.tactic]
      rfl
    rw [context, before, strikes]
    simpa [fresh] using entered.starts looped

end Execution

end Raid
