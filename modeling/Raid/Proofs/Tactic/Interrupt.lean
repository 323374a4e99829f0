import Raid.Proofs.Script.Calling
import Raid.Proofs.Script.Returns
import Raid.Proofs.Script.Watching
import Raid.Proofs.Strike.Pausing
import Raid.Proofs.Tactic.Halting
import Raid.Proofs.Tactic.Within

/-!
An interrupt in the body of a strike. The listener whose slot the execution is watched in may be
triggered at any point of a body, and reverts the ledger of the execution there. What the execution
has registered by then is in that ledger, so that it is settled afterwards; and when the execution
goes on, no change is undone more often than it is made.
-/

namespace Raid

open Act

theorem Footprint.Hosts.conducts {F : Footprint World} {permit : Permit} (hosts : F.Hosts permit)
    (records : permit.records) : F.Conducts :=
  ⟨hosts.emit, hosts.revert, hosts.recordExecuted records⟩

theorem Footprint.calling_carries : Footprint.calling.Carries where
  toConducts := calling_hosts.conducts trivial
  newLedger := calling_hosts.newLedger
  slots _ _ _ := ⟨[], .aside rfl rfl⟩

namespace Execution

def Start.Pauses (start : Start) : Pause StrikeResult → Prop :=
  start.strike.Pauses start.context start.state.world

/-- The rest of an execution from a point of the body of a strike on, where this is left of the
body. -/
def resumed (state : Execution) (start : Start) (rest : Task StrikeResult) (world : World) :
    Outcome (Except TacticError Unit) × Execution :=
  state.afterwards (finishStrike rest start.strike start.context.ledger >>= fun _ =>
    runStrikes state.namesBefore start.context start.rest) { start.state with world }

section

variable {before : List String} {context : StrikeContext} {strikes : List Strike}
  {state : Execution} {start : Start}

theorem starts_suffix (begun : start ∈ starts before context strikes state) :
    start.strike :: start.rest <:+ strikes := by
  induction strikes generalizing state with
  | nil => cases begun
  | cons strike rest ih =>
    simp only [starts] at begun
    split at begun
    · cases begun
    · split at begun
      · exact (ih begun).trans (List.suffix_cons strike rest)
      · rcases List.mem_cons.mp begun with rfl | later
        · exact List.suffix_rfl
        · split at later
          · exact (ih later).trans (List.suffix_cons strike rest)
          · cases later

theorem runStrikes_from (begun : start ∈ starts before context strikes state) :
    runStrikes before context strikes state =
      (runStrike start.strike start.context >>= fun _ =>
        runStrikes before start.context start.rest) start.state := by
  induction strikes generalizing state with
  | nil => cases begun
  | cons strike rest ih =>
    simp only [starts] at begun
    split at begun
    · cases begun
    · rename_i calm
      split at begun
      · rename_i known
        simp only [runStrikes, bind_apply, tactic?, if_neg calm, if_pos known]
        exact ih begun
      · rename_i fresh
        simp only [runStrikes, bind_apply, tactic?, if_neg calm, if_neg fresh]
        rcases List.mem_cons.mp begun with rfl | later
        · rfl
        · cases ran : runStrike strike context state with
          | mk outcome after =>
            rw [ran] at later
            cases outcome with
            | done value => exact ih later
            | panicked payload => cases later
            | ended ending => cases later

end

section

variable {state : Execution} {start : Start} {pause : Pause StrikeResult}

theorem started_eq (begun : start ∈ state.started) :
    state.tactic.name.isEmpty = false ∧ state.tactic.status = .notStarted ∧
      start ∈ starts state.namesBefore state.ownContext state.tactic.strikes state.entered := by
  unfold started at begun
  split at begun
  · cases begun
  · rename_i runs
    simp only [Bool.or_eq_true, decide_eq_true_eq, not_or, Bool.not_eq_true,
      ne_eq, Decidable.not_not] at runs
    exact ⟨runs.1, runs.2, begun⟩

/-- What is left of a strike at a point of its body closes it as the whole does. -/
theorem closingOf_rest (paused : start.Pauses pause) :
    closingOf pause.rest start.strike.name start.context.ledger pause.world = start.closed := by
  simp only [Start.closed, closing_eq, closingOf, bind_apply, caught, Strike.Pauses.resume paused]

/-- An execution is the way to a point of a body and what is left there. -/
theorem resumed_eq (begun : start ∈ state.started)
    (paused : start.Pauses pause) :
    state.resumed start pause.rest pause.world = execute state := by
  obtain ⟨named, fresh, begun⟩ := started_eq begun
  have closed : finishStrike pause.rest start.strike start.context.ledger
      { start.state with world := pause.world } =
        runStrike start.strike start.context start.state := by
    rw [runStrike_eq]
    simp only [finishStrike, closingOf_rest paused, Start.closed, attempted]
  rw [execute_eq_afterwards named fresh, resumed, afterwards, afterwards]
  simp only [bind_apply, runStrikes_from begun, closed]

end

/-- What an execution has registered at a point of the body of a strike: what that body has, and what
the bodies before it had at any of their points. -/
def Registered (state : Execution) (start : Start) (pause : Pause StrikeResult)
    (ref : Ref Change) : Prop :=
  ref ∈ pause.registered ∨ ∃ earlier ∈ state.started, start ∈ earlier.following state.namesBefore ∧
    ∃ point, earlier.Pauses point ∧ ref ∈ point.registered

section

variable {F : Footprint World} {permit : Permit} (hosts : F.Hosts permit)
  (records : permit.records) {state : Execution} {start : Start} {pause : Pause StrikeResult}
  (permitted : ∀ strike ∈ state.tactic.strikes, strike.body.Permitted permit)

include hosts records permitted

theorem allowed_start (begun : start ∈ state.started) :
    F.allows state.entered.world start.state.world :=
  (hosts.conducts records).begun (looped rfl)
    (fun strike member => Strike.within_run hosts strike _ (permitted strike member))
    (started_eq begun).2.2

theorem allowed_pause (begun : start ∈ state.started) (paused : start.Pauses pause) :
    F.allows state.entered.world pause.world := by
  have member := (starts_suffix (started_eq begun).2.2).subset List.mem_cons_self
  exact F.trans (allowed_start hosts records permitted begun)
    (Strike.Pauses.allowed paused hosts (permitted _ member))

theorem allowed_following {earlier : Start} (begun : earlier ∈ state.started)
    (paused : earlier.Pauses pause) (later : start ∈ earlier.following state.namesBefore) :
    F.allows pause.world start.state.world := by
  obtain ⟨-, -, begun⟩ := started_eq begun
  have members := (starts_suffix begun).subset
  have conducts := hosts.conducts records
  have rest := Strike.Pauses.within_rest paused hosts (permitted _ (members List.mem_cons_self))
  have closing := conducts.closingOf rest earlier.strike.name earlier.context.ledger pause.world
  rw [closingOf_rest paused] at closing
  simp only [Start.following, runStrike_eq] at later
  rw [← Start.closed] at later
  cases closed : earlier.closed with
  | mk outcome world =>
    rw [closed] at later closing
    cases outcome with
    | panicked payload => cases later
    | ended ending => cases later
    | done result =>
      have booked := conducts.booked earlier.strike result { earlier.state.attempted with world }
      have bodies : ∀ strike ∈ earlier.rest, Within F (strike.run earlier.context) :=
        fun strike member => Strike.within_run hosts strike _
          (permitted strike (members (List.mem_cons_of_mem _ member)))
      exact F.trans closing (F.trans booked (conducts.begun (looped rfl) bodies later))

end

section

variable {state : Execution} {start : Start} {pause : Pause StrikeResult}

theorem ownLedger_inside (state : Execution) :
    state.ownLedger.index < state.entered.world.ledgers.size := by
  obtain ⟨slots, processSlot, journal, entered⟩ := state.entered_world
  rw [entered]
  exact Nat.lt_succ_self _

/-- What an execution has registered at a point stands in its ledger. -/
theorem registered_tracked (begun : start ∈ state.started) (paused : start.Pauses pause)
    {ref : Ref Change} (registered : state.Registered start pause ref) :
    ref ∈ (pause.world.ledger state.ownLedger).changes := by
  have hosts := Footprint.tracking_hosts state.ownLedger
  have permitted : ∀ strike ∈ state.tactic.strikes, strike.body.Permitted {} :=
    fun strike _ => .any strike.body
  have inside {start : Start} (begun : start ∈ state.started) :
      state.ownLedger.index < start.state.world.ledgers.size :=
    Nat.lt_of_lt_of_le (ownLedger_inside state)
      (allowed_start hosts trivial permitted begun).size
  have tracked {start : Start} {pause : Pause StrikeResult} (begun : start ∈ state.started)
      (paused : start.Pauses pause) :
      ∀ ref ∈ pause.registered, ref ∈ (pause.world.ledger state.ownLedger).changes := by
    have own : start.context.ledger = state.ownLedger := by
      rw [starts_context _ _ _ _ start (started_eq begun).2.2]
      rfl
    have tracked := Strike.Pauses.tracked paused
    rw [own] at tracked
    exact tracked (inside begun)
  rcases registered with here | ⟨earlier, begun', later, point, paused', registered⟩
  · exact tracked begun paused ref here
  · have known := tracked begun' paused' ref registered
    have pointed := (allowed_pause hosts trivial permitted begun' paused').size
    have between := allowed_following hosts trivial permitted begun' paused' later
    have going := Strike.Pauses.allowed paused hosts (.any _)
    exact going.kept (inside begun) ref
      (between.kept (Nat.lt_of_lt_of_le (ownLedger_inside state) pointed) ref known)

/-- Only the execution uses the slot up to this world: the slot is one of the world's, and no body
fills or clears a slot; or the slot holds the watch of the execution still. -/
def HoldsSlot (state : Execution) (slot : Ref WatchSlot) (world : World) : Prop :=
  (slot.index < state.opened.2.slots.size ∧ ∀ strike ∈ state.tactic.strikes, ¬strike.body.Watches) ∨
    (world.slots.get slot).watch = some ⟨state.tactic.name, state.ownLedger⟩

theorem entered_holds {slot : Ref WatchSlot} (watched : state.opened.1 = some slot)
    (known : slot.index < state.opened.2.slots.size) :
    state.entered.world.Holds slot ⟨state.tactic.name, state.ownLedger⟩ := by
  simp only [entered, noted, withWatch, watched]
  exact ⟨known, by simp⟩

/-- At a point of a body the slot of the execution holds its watch. -/
theorem held_pause {slot : Ref WatchSlot} (watched : state.opened.1 = some slot)
    (begun : start ∈ state.started) (paused : start.Pauses pause)
    (holds : state.HoldsSlot slot pause.world) :
    (pause.world.slots.get slot).watch = some ⟨state.tactic.name, state.ownLedger⟩ := by
  rcases holds with ⟨known, alone⟩ | held
  · exact (allowed_pause (Footprint.keeping_holds slot _) trivial
      (fun strike member => ⟨fun _ _ => trivial, fun _ => trivial, alone strike member⟩) begun paused
      (entered_holds watched known)).held
  · exact held

theorem returns_pause (returns : state.world.RevertsReturn)
    (gentle : ∀ strike ∈ state.tactic.strikes, strike.RevertsReturn) (begun : start ∈ state.started)
    (paused : start.Pauses pause) : pause.world.RevertsReturn :=
  allowed_pause Footprint.keeping_revertsReturn trivial
    (fun strike member => ⟨gentle strike member, fun _ => trivial, fun _ => trivial⟩) begun paused
    (returns.of_changes (entered_changes state))

/-- An execution that is interrupted at a point of a body and goes on is a course of the world. -/
theorem resumed_course (begun : start ∈ state.started) (paused : start.Pauses pause)
    (slot : Ref WatchSlot) (label : String) :
    ∃ calls, Change.Course state.world calls
      (state.resumed start pause.rest (Watch.cleanUp slot label pause.world).2).2.world := by
  have hosts := Footprint.calling_hosts
  have carries := Footprint.calling_carries
  have begun := allowed_pause hosts trivial (fun strike _ => strike.body.permitted_calling) begun
    paused
  have body := Strike.Pauses.within_rest paused hosts start.strike.body.permitted_calling
  have others : Within Footprint.calling.onExecution
      (runStrikes state.namesBefore start.context start.rest) :=
    carries.runStrikes _ _ fun strike _ =>
      Strike.within_run hosts strike _ strike.body.permitted_calling
  have ended := carries.afterwards
    (within_bind (carries.finishStrike body start.strike start.context.ledger) fun _ => others)
    state { start.state with world := (Watch.cleanUp slot label pause.world).2 }
  exact Footprint.calling.trans (carries.entered state) (Footprint.calling.trans begun
    (Footprint.calling.trans (hosts.cleanUp slot label pause.world) ended))

end

/-- An interrupt at a point of the body of a strike, where only the execution uses its slot and no
revert function panics. The listener's cleaning up comes to an end, and settles every change that the
execution has registered. When the execution goes on after it, then at its end no change has ever
been undone more often than it was made. -/
theorem execute_interrupted {state : Execution} {slot : Ref WatchSlot}
    (watched : state.opened.1 = some slot) (returns : state.world.RevertsReturn)
    (gentle : ∀ strike ∈ state.tactic.strikes, strike.RevertsReturn) {start : Start}
    (begun : start ∈ state.started) {pause : Pause StrikeResult} (paused : start.Pauses pause)
    (holds : state.HoldsSlot slot pause.world) (label : String) {origin : World}
    {earlier : List Change.Heard} (history : Change.Course origin earlier state.world)
    (idle : ∀ ref, (origin.change ref).due = false) :
    state.resumed start pause.rest pause.world = execute state ∧
    ∃ swept, Watch.cleanUp slot label pause.world = (.done (), swept) ∧
      (∀ ref, state.Registered start pause ref → (swept.change ref).Settled) ∧
      (∃ calls, Change.Course state.world calls
        (state.resumed start pause.rest swept).2.world) ∧
      ∀ calls, Change.Course state.world calls (state.resumed start pause.rest swept).2.world →
        ∀ ref, Change.timesUndone ref (earlier ++ calls) ≤
          Change.timesMade ref (earlier ++ calls) := by
  obtain ⟨swept, swept_eq, settled⟩ := Watch.cleanUp_done
    (held_pause watched begun paused holds) (returns_pause returns gentle begun paused) label
  have going := resumed_course begun paused slot label
  rw [swept_eq] at going
  refine ⟨resumed_eq begun paused, swept, swept_eq, ?_, going, fun calls course ref => ?_⟩
  · exact fun ref registered => settled ref (registered_tracked begun paused registered)
  · have balance := (history.trans course).balance ref
    rw [idle ref] at balance
    exact Nat.le_of_add_right_le balance

/-- A movement that applies its change twice and does not return it. -/
def applyingTwice : MovementStep :=
  { id := none, name := "mv"
    body := [
      .change "c" "c" "d" (some (.scripted [.value .null])) (some (.scripted [.value .null])),
      .managerOfContext "m" "ctx", .add "m" "x" "c",
      .managerApply "m" "x" "svc" .null, .managerApply "m" "x" "svc" .null]
    plan := { description := "d", verdict := .pass "fine" } }

def reapplies : Strike :=
  ⟨"s1", .scripted { description := "first", steps := [.movement applyingTwice] }⟩

def reapplying : Execution :=
  ⟨{ slots := (({} : Table WatchSlot).add {}).2 },
    { name := "t", strikes := [reapplies], executed := ⟨0⟩, slot := some ⟨0⟩
      context := { service := "svc", invasive := true, ledger := ⟨0⟩ } }⟩

def reapplyingStart : Start := ⟨reapplies, [], reapplying.ownContext, reapplying.entered⟩

theorem started_reapplying : reapplyingStart ∈ reapplying.started := by
  have calm : ¬reapplying.entered.tactic.badStateAlert = true := by decide
  have fresh : reapplies.name ∉ reapplying.namesBefore := by decide
  rw [started, if_neg (by decide)]
  change reapplyingStart ∈ starts _ _ [reapplies] _
  rw [starts, if_neg calm, if_neg fresh]
  exact List.mem_cons_self

/-- Between the two applies the change is live. The interrupt reverts it, and the second apply makes
it live again. -/
theorem execute_interrupted_reapplying :
    ∃ pause, reapplyingStart.Pauses pause ∧ (pause.world.change ⟨0⟩).due = true ∧
      ∃ swept, Watch.cleanUp ⟨0⟩ "SIGINT" pause.world = (.done (), swept) ∧
        (swept.change ⟨0⟩).Settled ∧
        (∀ calls, Change.Course reapplying.world calls
            (reapplying.resumed reapplyingStart pause.rest swept).2.world →
          ∀ ref, Change.timesUndone ref calls ≤ Change.timesMade ref calls) ∧
        ((reapplying.resumed reapplyingStart pause.rest swept).2.world.journal.filter
          Event.isCall).map (· matches .applyCalled ..) = [true, false, true, false] := by
  let acted := applyingTwice.body.take 4
  have once : (Script.runActions (some reapplying.ownContext) acted
      (StrikeScript.begun "s1" reapplying.ownContext reapplying.entered.world)).1 = .done () := by
    decide +kernel
  have paused := @Strike.Pauses.scripted reapplies reapplying.ownContext reapplying.entered.world
    _ _ rfl (@Script.Pauses.inside _ _ _ _ _ [] [] applyingTwice _ _ _ _ acted
      (applyingTwice.body.drop 4) rfl rfl rfl (by decide) rfl (Prod.ext once rfl))
  have returns : reapplying.world.RevertsReturn := by
    intro ref function undo
    cases undo
  have gentle : ∀ strike ∈ reapplying.tactic.strikes, strike.RevertsReturn := by
    intro strike member change made
    obtain rfl := List.mem_singleton.mp member
    obtain ⟨action, member, made⟩ := made
    have only : applyingTwice.body.filterMap Action.makes? =
        [{ name := "c", description := "d", applier := some (.scripted [.value .null])
           reverter := some (.scripted [.value .null]) }] := rfl
    replace member := List.mem_filterMap.mpr ⟨action, member, made⟩
    rw [List.flatMap_singleton, Step.actions, only, List.mem_singleton] at member
    subst member
    rintro function ⟨⟩ reply member
    obtain rfl := List.mem_singleton.mp member
    rfl
  have alone : ∀ strike ∈ reapplying.tactic.strikes, ¬strike.body.Watches := by
    intro strike member
    obtain rfl := List.mem_singleton.mp member
    rintro ⟨action, member, watches⟩
    have each : ∀ action ∈ applyingTwice.body, action.watches = false := by decide
    simp [each action member] at watches
  obtain ⟨-, swept, cleaned, settled, -, balanced⟩ := execute_interrupted rfl returns gentle
    started_reapplying paused (.inl ⟨by decide, alone⟩) "SIGINT" (.aside rfl rfl) fun _ => rfl
  refine ⟨_, paused, by decide +kernel, swept, cleaned, settled _ (.inl (by decide +kernel)),
    balanced, ?_⟩
  obtain rfl := congrArg Prod.snd cleaned
  decide +kernel

end Execution

end Raid
