import Raid.Proofs.Script.Run
import Raid.Proofs.Tactic.Run

/-!
What the execution of a tactic can do to the world. A footprint that allows the steps of the
execution itself allows the whole execution, where it allows the bodies of the tactic's strikes.
-/

namespace Raid

open Act

/-- The footprint allows everything that the loop over the strikes does besides running the bodies. -/
structure Footprint.Conducts (F : Footprint World) : Prop where
  emit : ∀ event, event.isCall = false → Within F (Task.emit event)
  revert : ∀ ref, Within F (Change.revert ref)
  recordExecuted : ∀ ref name, Within F (Task.recordExecuted ref name)

/-- The footprint allows everything that an execution does besides running the bodies. -/
structure Footprint.Carries (F : Footprint World) : Prop extends F.Conducts where
  newLedger : Within F Task.newLedger
  slots : ∀ world slots processSlot,
    F.allows world { world with slots := slots, processSlot := processSlot }

namespace Footprint

def onExecution (F : Footprint World) : Footprint Execution where
  allows before after := F.allows before.world after.world
  refl state := F.refl state.world
  trans := F.trans

namespace Conducts

variable {F : Footprint World} (conducts : F.Conducts)

theorem onWorld {α : Type} {task : Task α} (inner : Within F task) :
    Within F.onExecution (Execution.onWorld task) := fun state => inner state.world

theorem onTactic (f : Tactic → Tactic) : Within F.onExecution (Execution.onTactic f) :=
  fun state => F.refl state.world

theorem tactic? : Within F.onExecution Execution.tactic? := F.onExecution.refl

include conducts

theorem log (level : LogLevel) (message : String) (fields : List (String × Json)) :
    Within F.onExecution (Execution.log level message fields) :=
  within_bind tactic? fun _ => onWorld (conducts.emit _ rfl)

theorem revertAll (ledger : Ref Ledger) : Within F (Ledger.revertAll ledger) :=
  within_bind within_read fun _ =>
    Change.within_revertEach_of conducts.revert conducts.emit _ _ _

theorem followThrough (result : StrikeResult) : Within F result.followThrough :=
  within_bind (Change.within_revertEach_of conducts.revert conducts.emit _ _ _) fun _ =>
    within_pure _

theorem panickedResult (name : String) (payload : Payload) (ledger : Ref Ledger) :
    Within F (Execution.panickedResult name payload ledger) :=
  within_bind (conducts.emit _ rfl) fun _ => within_bind (conducts.revertAll _) fun _ =>
    within_pure _

theorem closingOf {body : Task StrikeResult} (inner : Within F body) (name : String)
    (ledger : Ref Ledger) : Within F (Execution.closingOf body name ledger) := by
  refine within_bind (within_bind (within_caught inner) fun answer => ?_) conducts.followThrough
  cases answer with
  | ok result => exact within_pure result
  | error payload => exact conducts.panickedResult name payload ledger

theorem closed {strike : Strike} {context : StrikeContext} {world middle after : World}
    {ran outcome : Outcome StrikeResult} (body : strike.run context world = (ran, middle))
    (run : Execution.closing strike context world = (outcome, after)) : F.allows middle after := by
  simp only [Execution.closing, Execution.strikeResult, bind_apply, caught, body] at run
  cases ran with
  | done result => exact (conducts.followThrough result).of_run run
  | panicked payload =>
    exact (within_bind (conducts.panickedResult strike.name payload context.ledger)
      conducts.followThrough).of_run run
  | ended ending =>
    cases run
    exact F.refl _

theorem booked (strike : Strike) (result : StrikeResult) (state : Execution) :
    F.allows state.world (Execution.booked strike result state).world := by
  have quiet : (Execution.verdict state.tactic strike result).isCall = false := by
    unfold Execution.verdict
    split <;> rfl
  exact F.trans (conducts.emit _ quiet _)
    (conducts.recordExecuted state.tactic.executed strike.name _)

theorem finishStrike {body : Task StrikeResult} (inner : Within F body) (strike : Strike)
    (ledger : Ref Ledger) : Within F.onExecution (Execution.finishStrike body strike ledger) := by
  intro state
  unfold Execution.finishStrike
  cases closed : Execution.closingOf body strike.name ledger state.world with
  | mk outcome world =>
    have allowed := (conducts.closingOf inner strike.name ledger).of_run closed
    cases outcome with
    | done result =>
      exact F.trans allowed (conducts.booked strike result { state.attempted with world })
    | panicked payload => exact allowed
    | ended ending => exact allowed

theorem runStrikes (before : List String) (context : StrikeContext) {strikes : List Strike}
    (bodies : ∀ strike ∈ strikes, Within F (strike.run context)) :
    Within F.onExecution (Execution.runStrikes before context strikes) := by
  induction strikes with
  | nil => exact within_pure ()
  | cons strike rest ih =>
    obtain ⟨body, bodies⟩ := List.forall_mem_cons.mp bodies
    refine within_bind tactic? fun tactic => within_ite (conducts.log _ _ _) (within_ite ?_ ?_)
    · exact within_bind (conducts.log _ _ _) fun _ => ih bodies
    · rw [Execution.runStrike_eq_finishStrike]
      exact within_bind (conducts.finishStrike body strike _) fun _ => ih bodies

theorem settleResults (names : List String) :
    Within F.onExecution (Execution.settleResults names) := by
  induction names with
  | nil => exact within_pure ()
  | cons name rest ih =>
    refine within_bind tactic? fun tactic => ?_
    cases tactic.strikeResults.get? name with
    | none => exact ih
    | some result =>
      exact within_bind (onTactic _) fun _ =>
        within_bind (onWorld (conducts.followThrough result)) fun _ =>
          within_bind (onTactic _) fun _ => ih

theorem cleanUp (ledger : Ref Ledger) : Within F.onExecution (Execution.cleanUp ledger) :=
  within_bind tactic? fun _ => within_bind (conducts.settleResults _) fun _ =>
    within_bind (onWorld (conducts.revertAll ledger)) fun _ => onTactic _

theorem conclude : Within F.onExecution Execution.conclude := by
  refine within_bind within_read fun _ => within_bind (onTactic _) fun _ =>
    within_bind tactic? fun tactic => within_ite ?_ (within_ite ?_ ?_)
  all_goals exact within_bind (conducts.log _ _ _) fun _ => within_pure _

/-- However the loop comes out, it comes there by allowed work. -/
theorem looped {before : List String} {context : StrikeContext} {strikes : List Strike}
    {state after : Execution} {starts : List Execution.Start} {outcome : Outcome Unit}
    (loop : Execution.Looped before context strikes state starts outcome after)
    (bodies : ∀ strike ∈ strikes, Within F (strike.run context)) :
    F.allows state.world after.world := by
  induction loop with
  | finished state => exact F.refl _
  | halted alert => exact conducts.emit _ rfl _
  | skipped calm known going ih =>
    exact F.trans (conducts.emit _ rfl _) (ih (List.forall_mem_cons.mp bodies).2)
  | @ran strike rest state after later outcome result world calm fresh closed going ih =>
    obtain ⟨body, bodies⟩ := List.forall_mem_cons.mp bodies
    rw [Execution.closing_eq] at closed
    exact F.trans ((conducts.closingOf body _ _).of_run closed)
      (F.trans (conducts.booked strike result { state.attempted with world }) (ih bodies))
  | panicked calm fresh closed =>
    rw [Execution.closing_eq] at closed
    exact (conducts.closingOf (List.forall_mem_cons.mp bodies).1 _ _).of_run closed
  | ended calm fresh closed =>
    rw [Execution.closing_eq] at closed
    exact (conducts.closingOf (List.forall_mem_cons.mp bodies).1 _ _).of_run closed

/-- The loop comes to a start by allowed work. -/
theorem begun {before : List String} {context : StrikeContext} {strikes : List Strike}
    {state after : Execution} {starts : List Execution.Start} {outcome : Outcome Unit}
    (loop : Execution.Looped before context strikes state starts outcome after)
    (bodies : ∀ strike ∈ strikes, Within F (strike.run context)) {start : Execution.Start}
    (member : start ∈ starts) : F.allows state.world start.state.world := by
  induction loop with
  | finished state => cases member
  | halted alert => cases member
  | skipped calm known going ih =>
    exact F.trans (conducts.emit _ rfl _) (ih (List.forall_mem_cons.mp bodies).2 member)
  | @ran strike rest state after later outcome result world calm fresh closed going ih =>
    obtain ⟨body, bodies⟩ := List.forall_mem_cons.mp bodies
    rcases List.mem_cons.mp member with rfl | member
    · exact F.refl _
    · rw [Execution.closing_eq] at closed
      have booked := conducts.booked strike result { state.attempted with world }
      exact F.trans ((conducts.closingOf body _ _).of_run closed)
        (F.trans booked (ih bodies member))
  | panicked calm fresh closed =>
    obtain rfl := List.mem_singleton.mp member
    exact F.refl _
  | ended calm fresh closed =>
    obtain rfl := List.mem_singleton.mp member
    exact F.refl _

end Conducts

namespace Carries

variable {F : Footprint World} (carries : F.Carries)

include carries

theorem withWatch (slot : Option (Ref WatchSlot)) (watch : Option Watch) (state : Execution) :
    F.allows state.world (state.withWatch slot watch).world := by
  obtain ⟨slots, same⟩ := Execution.world_withWatch slot watch state
  rw [same]
  exact carries.slots state.world slots _

theorem opened (state : Execution) : F.allows state.world state.opened.2 := by
  obtain ⟨slots, processSlot, same⟩ := Execution.watchedIn_world state.tactic
    { state.world with ledgers := (state.world.ledgers.add {}).2 }
  rw [Execution.opened, same]
  exact F.trans (carries.newLedger state.world) (carries.slots _ slots processSlot)

theorem entered (state : Execution) : F.allows state.world state.entered.world :=
  F.trans (F.trans (carries.opened state)
    (carries.withWatch _ (some ⟨state.tactic.name, state.ownLedger⟩) { state with world := _ }))
    (carries.emit _ rfl _)

theorem afterwards {work : Act Execution Unit} (inner : Within F.onExecution work)
    (origin state : Execution) : F.allows state.world (origin.afterwards work state).2.world := by
  unfold Execution.afterwards
  cases run : (work >>= fun _ => change (Execution.restored origin.tactic.strikes) >>= fun _ =>
      Execution.cleanUp origin.ownLedger) state with
  | mk outcome after =>
    have restored : Within F.onExecution (change (Execution.restored origin.tactic.strikes)) :=
      fun state => F.refl state.world
    have allowed : F.allows state.world after.world :=
      (within_bind inner fun _ => within_bind restored fun _ =>
        carries.cleanUp origin.ownLedger).of_run run
    cases outcome with
    | done value =>
      exact F.trans allowed (F.trans (carries.withWatch _ none after) (carries.conclude _))
    | panicked payload => exact F.trans allowed (carries.withWatch _ none after)
    | ended ending => exact allowed

end Carries

end Footprint

/-- An execution does nothing that the footprint does not allow. -/
theorem Execution.within_execute {F : Footprint World} (carries : F.Carries) {state : Execution}
    (bodies : ∀ strike ∈ state.tactic.strikes, ∀ context, Within F (strike.run context)) :
    F.allows state.world (execute state).2.world := by
  cases named : state.tactic.name.isEmpty with
  | true =>
    rw [execute_unnamed named]
    exact F.refl _
  | false =>
    by_cases fresh : state.tactic.status = .notStarted
    case neg =>
      rw [execute_again named fresh]
      exact F.refl _
    rw [execute_eq_afterwards named fresh]
    exact F.trans (carries.entered state) (carries.afterwards
      (carries.runStrikes _ _ fun strike member => bodies strike member _) state _)

/-- The directory that relative paths start from stays, and so does the reading of the clock. -/
structure World.Stays (before after : World) : Prop where
  workingDirectory : after.files.workingDirectory = before.files.workingDirectory
  now : after.now = before.now

def Footprint.staying : Footprint World where
  allows := World.Stays
  refl _ := ⟨rfl, rfl⟩
  trans first second :=
    ⟨second.workingDirectory.trans first.workingDirectory, second.now.trans first.now⟩

theorem World.Stays.of_surroundings {before after : World}
    (same : after.surroundings = before.surroundings) : Stays before after := by
  have stays : Stays before.surroundings after.surroundings := by
    rw [same]
    exact ⟨rfl, rfl⟩
  exact ⟨stays.workingDirectory, stays.now⟩

theorem Footprint.staying_hosts : Footprint.staying.Hosts {} where
  emit _ _ := fun _ => ⟨rfl, rfl⟩
  newChange _ _ := fun _ => ⟨rfl, rfl⟩
  apply ref targetName input := fun world =>
    .of_surroundings (Change.apply_surroundings ref targetName input world)
  revert ref := fun world => .of_surroundings (Change.within_revert ref world).surroundings
  newLedger := fun _ => ⟨rfl, rfl⟩
  track ledger change := fun world => by
    simp only [Ledger.track, bind_apply, read_apply]
    split <;> exact ⟨rfl, rfl⟩
  newExecuted _ := fun _ => ⟨rfl, rfl⟩
  recordExecuted _ _ _ := fun _ => ⟨rfl, rfl⟩
  newSlot := fun _ => ⟨rfl, rfl⟩
  setSlot _ _ _ := fun _ => ⟨rfl, rfl⟩
  onBench _ := fun _ => ⟨rfl, rfl⟩
  files _ _ same := ⟨FileTree.workingDirectory_of_ground same, rfl⟩
  freshIdentifier := fun _ => ⟨rfl, rfl⟩

theorem Footprint.staying_carries : Footprint.staying.Carries where
  emit := staying_hosts.emit
  revert := staying_hosts.revert
  newLedger := staying_hosts.newLedger
  recordExecuted := staying_hosts.recordExecuted trivial
  slots _ _ _ := ⟨rfl, rfl⟩

theorem Execution.execute_stays (state : Execution) :
    World.Stays state.world (execute state).2.world :=
  within_execute Footprint.staying_carries fun strike _ context =>
    Strike.within_run Footprint.staying_hosts strike context (.any _)

end Raid
