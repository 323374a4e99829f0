import Raid.Proofs.Matching
import Raid.Proofs.Tactic.Run

/-!
Two executions side by side, of which the one has other strikes in the place of those of the other.
Where their bodies match, so do the executions: they come to the same answer and keep the same
results.
-/

namespace Raid

open Act

/-- The relation is respected by all that an execution does besides running bodies. Related worlds
differ in files and in the journal at most. -/
structure World.Carried (R : World → World → Prop) : Prop where
  same : ∀ {first second}, R first second →
    ∃ files journal, second = { first with files := files, journal := journal }
  emit : ∀ event, event.isCall = false → Respects R (Task.emit event)
  revert : ∀ ref, Respects R (Change.revert ref)
  newLedger : Respects R Task.newLedger
  recordExecuted : ∀ ref name, Respects R (Task.recordExecuted ref name)
  slots : ∀ {first second} slots processSlot, R first second →
    R { first with slots := slots, processSlot := processSlot }
      { second with slots := slots, processSlot := processSlot }

namespace World.Carried

variable {R : World → World → Prop} (carried : Carried R)

include carried

theorem look {α : Type} (f : World → Outcome α)
    (blind : ∀ world files journal, f { world with files := files, journal := journal } = f world) :
    Respects R fun world => (f world, world) := by
  refine respects_look fun first second related => ?_
  obtain ⟨files, journal, rfl⟩ := carried.same related
  exact (blind first files journal).symm

theorem read {α : Type} {next : World → Task α}
    (blind : ∀ world files journal,
      next { world with files := files, journal := journal } = next world)
    (rest : ∀ world, Respects R (next world)) : Respects R (Act.read >>= next) := by
  refine respects_read (fun first second related => ?_) rest
  obtain ⟨files, journal, rfl⟩ := carried.same related
  exact (blind first files journal).symm

theorem log (level : LogLevel) (area : LogArea) (message : String)
    (fields : List (String × Json) := []) : Respects R (Task.log level area message fields) :=
  carried.emit _ rfl

theorem revertEach (area : LogArea) (heading : String) (refs : List (Ref Change)) :
    Respects R (Change.revertEach area heading refs) := by
  induction refs with
  | nil => exact respects_pure []
  | cons ref rest ih =>
    refine respects_bind (carried.revert ref) fun answer => ?_
    cases answer with
    | ok value => exact ih
    | error error =>
      exact respects_bind (carried.look _ fun _ _ _ => rfl) fun name =>
        respects_bind (carried.log _ _ _ _) fun _ => respects_bind ih fun others =>
          respects_pure (error :: others)

theorem revertAll (ledger : Ref Ledger) : Respects R (Ledger.revertAll ledger) :=
  carried.read (fun _ _ _ => rfl) fun _ => carried.revertEach _ _ _

theorem followThrough (result : StrikeResult) : Respects R result.followThrough :=
  respects_bind (carried.revertEach _ _ _) fun _ => respects_pure _

theorem panickedResult (name : String) (payload : Payload) (ledger : Ref Ledger) :
    Respects R (Execution.panickedResult name payload ledger) :=
  respects_bind (carried.emit _ rfl) fun _ => respects_bind (carried.revertAll ledger) fun _ =>
    respects_pure _

theorem setSlot (slot : Ref WatchSlot) (watch : Option Watch) :
    Respects R (Task.setSlot slot watch) := by
  intro first second related
  have kept := carried.slots (first.slots.set slot ⟨watch⟩) first.processSlot related
  obtain ⟨files, journal, rfl⟩ := carried.same related
  exact ⟨rfl, kept⟩

theorem newSlot : Respects R Task.newSlot := by
  intro first second related
  have kept := carried.slots (first.slots.add {}).2 first.processSlot related
  obtain ⟨files, journal, rfl⟩ := carried.same related
  exact ⟨rfl, kept⟩

theorem processSlot : Respects R Watch.processSlot := by
  refine carried.read (fun _ _ _ => rfl) fun world => ?_
  cases world.processSlot with
  | some slot => exact respects_pure slot
  | none =>
    refine respects_bind carried.newSlot fun slot => respects_bind ?_ fun _ => respects_pure slot
    intro first second related
    have kept := carried.slots first.slots (some slot) related
    obtain ⟨files, journal, rfl⟩ := carried.same related
    exact ⟨rfl, kept⟩

theorem watchSlot (tactic : Tactic) : Respects R (Execution.watchSlot tactic) := by
  unfold Execution.watchSlot
  cases tactic.slot with
  | some slot => exact respects_pure _
  | none =>
    exact respects_ite (respects_bind carried.processSlot fun _ => respects_pure _)
      (respects_pure _)

theorem strikeResult {strike other : Strike} {context : StrikeContext}
    (named : other.name = strike.name)
    (body : Matches R (strike.run context) (other.run context)) :
    Matches R (Execution.strikeResult strike context) (Execution.strikeResult other context) := by
  unfold Execution.strikeResult
  rw [named]
  refine matches_bind (matches_caught body) fun answer => ?_
  cases answer with
  | ok result => exact respects_pure result
  | error payload => exact carried.panickedResult _ payload _

section

variable (track : ∀ ledger change, Respects R (Ledger.track ledger change))

include track

theorem add (manager : ChangeManager) (name : String) (ref : Ref Change) :
    Respects R (manager.add name ref) := by
  unfold ChangeManager.add
  cases manager.ledger with
  | some ledger =>
    exact respects_bind (track ledger ref) fun _ => respects_ite
      (respects_bind (carried.log _ _ _ _) fun _ => respects_pure _) (respects_pure _)
  | none =>
    exact respects_ite (respects_bind (carried.log _ _ _ _) fun _ => respects_pure _)
      (respects_pure _)

omit carried in
theorem trackEach (ledger : Ref Ledger) (refs : List (Ref Change)) :
    Respects R (Ledger.trackEach ledger refs) := by
  induction refs with
  | nil => exact respects_pure ()
  | cons ref rest ih => exact respects_bind (track ledger ref) fun _ => ih

theorem executeMovement (result : StrikeResult) (name : String)
    {movement : Task (MovementReport (Ref Change))} (inner : Respects R movement) :
    Respects R (result.executeMovement name movement) := by
  refine respects_bind inner fun report => ?_
  cases result.ledger with
  | some ledger =>
    exact respects_bind (trackEach track ledger _) fun _ =>
      respects_bind (carried.emit _ rfl) fun _ => respects_pure _
  | none => exact respects_bind (carried.emit _ rfl) fun _ => respects_pure _

end

end World.Carried

def Tactic.mapStrikes (f : Strike → Strike) (tactic : Tactic) : Tactic :=
  { tactic with strikes := tactic.strikes.map f }

structure Execution.Beside (R : World → World → Prop) (f : Strike → Strike)
    (first second : Execution) : Prop where
  world : R first.world second.world
  tactic : second.tactic = first.tactic.mapStrikes f

namespace Execution

variable {R : World → World → Prop} {f : Strike → Strike}

theorem matches_onWorld {α : Type} {task other : Task α} (inner : Matches R task other) :
    Matches (Beside R f) (onWorld task) (onWorld other) := fun first second beside =>
  have ⟨same, world⟩ := inner first.world second.world beside.world
  ⟨same, world, beside.tactic⟩

theorem matches_onTactic {g g' : Tactic → Tactic}
    (same : ∀ tactic, g' (tactic.mapStrikes f) = (g tactic).mapStrikes f) :
    Matches (Beside R f) (onTactic g) (onTactic g') := fun first _ beside =>
  ⟨rfl, beside.world, (congrArg g' beside.tactic).trans (same first.tactic)⟩

theorem matches_tactic? {α : Type} {next next' : Tactic → Act Execution α}
    (rest : ∀ tactic, Matches (Beside R f) (next tactic) (next' (tactic.mapStrikes f))) :
    Matches (Beside R f) (tactic? >>= next) (tactic? >>= next') := by
  intro first second beside
  simp only [bind_apply, tactic?, beside.tactic]
  exact rest first.tactic first second beside

variable (carried : World.Carried R)

include carried

theorem respects_log (level : LogLevel) (message : String) (fields : List (String × Json)) :
    Respects (Beside R f) (log level message fields) :=
  matches_tactic? fun _ => matches_onWorld (carried.log _ _ _ _)

theorem matches_runStrike {strike other : Strike} {context : StrikeContext}
    (named : other.name = strike.name)
    (body : Matches R (strike.run context) (other.run context)) :
    Matches (Beside R f) (runStrike strike context) (runStrike other context) := by
  unfold runStrike
  rw [named]
  refine matches_bind (matches_onTactic fun _ => rfl) fun _ =>
    matches_bind (matches_onWorld (carried.strikeResult named body)) fun result =>
      matches_bind (matches_onWorld (carried.followThrough result)) fun result =>
        matches_bind (matches_onTactic fun _ => rfl) fun _ => matches_tactic? fun tactic =>
          matches_ite (matches_bind (respects_log carried _ _ _) fun _ => ?_)
            (matches_bind (matches_onWorld (carried.emit _ rfl)) fun _ => ?_)
  all_goals
    exact matches_bind (matches_onWorld (carried.recordExecuted _ _)) fun _ =>
      matches_onTactic fun _ => rfl

theorem matches_runStrikes {strikes : List Strike} {context : StrikeContext}
    (named : ∀ strike, (f strike).name = strike.name)
    (bodies : ∀ strike ∈ strikes, Matches R (strike.run context) ((f strike).run context))
    (before : List String) :
    Matches (Beside R f) (runStrikes before context strikes)
      (runStrikes before context (strikes.map f)) := by
  induction strikes with
  | nil => exact respects_pure ()
  | cons strike rest ih =>
    obtain ⟨body, bodies⟩ := List.forall_mem_cons.mp bodies
    simp only [List.map_cons, runStrikes, named strike]
    refine matches_tactic? fun tactic =>
      matches_ite (respects_log carried _ _ _) (matches_ite ?_ ?_)
    · exact matches_bind (respects_log carried _ _ _) fun _ => ih bodies
    · exact matches_bind (matches_runStrike carried (named strike) body) fun _ => ih bodies

theorem respects_settleResults (names : List String) :
    Respects (Beside R f) (settleResults names) := by
  induction names with
  | nil => exact respects_pure ()
  | cons name rest ih =>
    refine matches_tactic? fun tactic => ?_
    simp only [Tactic.mapStrikes]
    cases tactic.strikeResults.get? name with
    | none => exact ih
    | some result =>
      exact matches_bind (matches_onTactic fun _ => rfl) fun _ =>
        matches_bind (matches_onWorld (carried.followThrough result)) fun _ =>
          matches_bind (matches_onTactic fun _ => rfl) fun _ => ih

theorem respects_cleanUp (ledger : Ref Ledger) : Respects (Beside R f) (cleanUp ledger) :=
  matches_tactic? fun _ => matches_bind (respects_settleResults carried _) fun _ =>
    matches_bind (matches_onWorld (carried.revertAll ledger)) fun _ => matches_onTactic fun _ => rfl

theorem respects_conclude : Respects (Beside R f) conclude := by
  refine respects_read (fun first second beside => ?_) fun state =>
    matches_bind (matches_onTactic fun _ => rfl) fun _ => matches_tactic? fun tactic =>
      matches_ite (matches_bind (respects_log carried _ _ _) fun _ => respects_pure _)
        (matches_ite (matches_bind (respects_log carried _ _ _) fun _ => respects_pure _)
          (matches_bind (respects_log carried _ _ _) fun _ => respects_pure _))
  obtain ⟨files, journal, same⟩ := carried.same beside.world
  rw [same]

theorem Beside.withWatch {first second : Execution} (beside : Beside R f first second)
    (slot : Option (Ref WatchSlot)) (watch : Option Watch) :
    Beside R f (first.withWatch slot watch) (second.withWatch slot watch) := by
  cases slot with
  | none => exact beside
  | some slot => exact (matches_onWorld (carried.setSlot slot watch) first second beside).2

theorem Beside.opened {first second : Execution} (beside : Beside R f first second) :
    second.opened.1 = first.opened.1 ∧ second.ownLedger = first.ownLedger ∧
      R first.opened.2 second.opened.2 := by
  have ⟨ledger, ledgers⟩ := carried.newLedger first.world second.world beside.world
  have ⟨slot, worlds⟩ := carried.watchSlot first.tactic _ _ ledgers
  have same (world : World) : watchedIn second.tactic world = watchedIn first.tactic world := by
    rw [beside.tactic]
    rfl
  rw [watchSlot_eq, watchSlot_eq] at slot worlds
  rw [Execution.opened, Execution.opened, same]
  exact ⟨(Outcome.done.inj slot).symm, (Outcome.done.inj ledger).symm, worlds⟩

theorem Beside.entered {first second : Execution} (beside : Beside R f first second) :
    Beside R f first.entered second.entered := by
  obtain ⟨slot, ledger, opened⟩ := beside.opened carried
  have began : Beside R f { first with world := first.opened.2 }
      { second with world := second.opened.2 } := ⟨opened, beside.tactic⟩
  have watched := began.withWatch carried first.opened.1
    (some ⟨first.tactic.name, first.ownLedger⟩)
  obtain ⟨files, journal, same⟩ := carried.same watched.world
  have now := congrArg World.now same
  have named : entry second.tactic .info "executing tactic"
      [("strikes", .nat second.tactic.strikes.length)] =
      entry first.tactic .info "executing tactic"
        [("strikes", .nat first.tactic.strikes.length)] := by
    simp [entry, beside.tactic, Tactic.mapStrikes]
  have name : second.tactic.name = first.tactic.name := by
    rw [beside.tactic]
    rfl
  rw [Execution.entered, Execution.entered, slot, ledger, named, name]
  refine ⟨(carried.emit _ rfl _ _ watched.world).2, ?_⟩
  simp only [noted, now]
  rw [beside.tactic]
  rfl

theorem Beside.afterwards {state other : Execution} (beside : Beside R f state other)
    {work work' : Act Execution Unit} (inner : Matches (Beside R f) work work') :
    Matches (Beside R f) (state.afterwards work) (other.afterwards work') := by
  obtain ⟨slot, ledger, -⟩ := beside.opened carried
  have restored : Matches (Beside R f) (change (Execution.restored state.tactic.strikes))
      (change (Execution.restored other.tactic.strikes)) := fun _ _ begun =>
    ⟨rfl, begun.world, by
      simp [change_apply, Execution.restored, beside.tactic, begun.tactic, Tactic.mapStrikes]⟩
  intro first second beside
  have ⟨outcomes, left⟩ := matches_bind inner (fun _ => matches_bind restored fun _ =>
    respects_cleanUp carried state.ownLedger) first second beside
  unfold Execution.afterwards
  rw [slot, ledger]
  cases run : (work >>= fun _ => change (Execution.restored state.tactic.strikes) >>= fun _ =>
      cleanUp state.ownLedger) first with
  | mk outcome after =>
    cases run' : (work' >>= fun _ => change (Execution.restored other.tactic.strikes) >>= fun _ =>
        cleanUp state.ownLedger) second with
    | mk outcome' after' =>
      rw [run, run'] at outcomes left
      cases outcomes
      cases outcome with
      | done value =>
        exact respects_conclude carried _ _ (left.withWatch carried state.opened.1 none)
      | panicked payload => exact ⟨rfl, left.withWatch carried state.opened.1 none⟩
      | ended ending => exact ⟨rfl, left⟩

/-- The strikes of an execution and those in their place, with bodies that match: the executions come
to the same answer, and keep the same results in related worlds. -/
theorem Beside.execute {first second : Execution} (beside : Beside R f first second)
    (named : ∀ strike, (f strike).name = strike.name)
    (bodies : ∀ strike ∈ first.tactic.strikes,
      Matches R (strike.run first.ownContext) ((f strike).run first.ownContext)) :
    (Execution.execute first).1 = (Execution.execute second).1 ∧
      Beside R f (Execution.execute first).2 (Execution.execute second).2 := by
  have same := beside.tactic
  cases bare : first.tactic.name.isEmpty with
  | true =>
    rw [execute_unnamed bare, execute_unnamed (by rwa [same])]
    exact ⟨rfl, beside⟩
  | false =>
    by_cases fresh : first.tactic.status = .notStarted
    case neg =>
      rw [execute_again bare fresh, execute_again (by rwa [same]) (by rwa [same]), same]
      exact ⟨rfl, beside⟩
    obtain ⟨-, ledger, -⟩ := beside.opened carried
    obtain ⟨files, journal, world⟩ := carried.same beside.world
    have context : second.ownContext = first.ownContext := by
      rw [ownContext, ownContext, ledger, same]
      rfl
    have before : second.namesBefore = first.namesBefore := by
      rw [namesBefore, namesBefore, world, same]
      rfl
    rw [execute_eq_afterwards bare fresh, execute_eq_afterwards (by rwa [same]) (by rwa [same]),
      context, before, show second.tactic.strikes = first.tactic.strikes.map f by rw [same]; rfl]
    exact beside.afterwards carried (matches_runStrikes carried named bodies _) _ _
      (beside.entered carried)

end Execution

end Raid
