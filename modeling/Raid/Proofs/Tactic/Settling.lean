import Raid.Proofs.Strike.FollowThrough
import Raid.Proofs.Tactic.Run

/-!
The cleaning up at the end of an execution: the kept results are followed through once more, and
then the whole ledger is reverted. When it comes to its end every change of the kept results and of
the ledger is settled, and the alert of the tactic is that of its changes and of its results.
-/

namespace Raid.Execution

open Act StrikeResult

def keptChanges (results : Dict StrikeResult) : List (Ref Change) :=
  results.values.flatMap fun result => result.report.changes

/-- The changes that the end of an execution accounts for: those of the ledger and those of the
results that are kept. -/
def accounted (ledger : Ref Ledger) (state : Execution) : List (Ref Change) :=
  (state.world.ledger ledger).changes ++ keptChanges state.tactic.strikeResults

theorem mem_keptChanges {results : Dict StrikeResult} {ref : Ref Change} :
    ref ∈ keptChanges results ↔
      ∃ name result, results.get? name = some result ∧ ref ∈ result.report.changes := by
  simp only [keptChanges, List.mem_flatMap, Dict.mem_values]
  constructor
  · rintro ⟨result, ⟨name, found⟩, member⟩
    exact ⟨name, result, found, member⟩
  · rintro ⟨name, result, found, member⟩
    exact ⟨result, ⟨name, found⟩, member⟩

theorem mem_accounted {ledger : Ref Ledger} {state : Execution} {ref : Ref Change} :
    ref ∈ accounted ledger state ↔ ref ∈ (state.world.ledger ledger).changes ∨
      ref ∈ keptChanges state.tactic.strikeResults := List.mem_append

@[simp] theorem accounted_concluded (ledger : Ref Ledger) (slot : Option (Ref WatchSlot))
    (event : Event) (cleaned : Execution) :
    accounted ledger (concluded slot event cleaned) = accounted ledger cleaned := by
  simp only [accounted, ledger_concluded]
  rfl

/-- Cleaning up: changes were reverted, and of the tactic nothing but the results that it keeps and
its alert may be different. -/
structure Settling (before after : Execution) : Prop where
  undone : World.Undone before.world after.world
  tactic : after.tactic = { before.tactic with
    strikeResults := after.tactic.strikeResults, badStateAlert := after.tactic.badStateAlert }

def settling : Footprint Execution where
  allows := Settling
  refl state := ⟨Footprint.undoing.refl state.world, rfl⟩
  trans begun ended :=
    ⟨Footprint.undoing.trans begun.undone ended.undone, by rw [ended.tactic, begun.tactic]⟩

theorem within_onWorld {α : Type} {task : Task α} (inner : Within .undoing task) :
    Within settling (onWorld task) := fun state => ⟨inner state.world, rfl⟩

def kept (name : String) (result : StrikeResult) (state : Execution) : Execution :=
  { state with tactic := { state.tactic with
      strikeResults := state.tactic.strikeResults.insert name result } }

/-- The pass over the kept results does what following through and keeping a result do. -/
theorem within_settleResults_of {F : Footprint Execution}
    (followed : ∀ result : StrikeResult, Within F (onWorld result.followThrough))
    (stored : ∀ name result, Within F (change (kept name result))) (names : List String) :
    Within F (settleResults names) := by
  induction names with
  | nil => exact within_pure ()
  | cons name rest ih =>
    refine within_bind (within_look _) fun tactic => ?_
    cases tactic.strikeResults.get? name with
    | none => exact ih
    | some result =>
      exact within_bind (stored name result.withDefaultMessage) fun _ =>
        within_bind (followed result) fun other => within_bind (stored name other) fun _ => ih

theorem within_settleResults (names : List String) : Within settling (settleResults names) :=
  within_settleResults_of (fun result => within_onWorld (within_followThrough result))
    (fun _ _ => within_change fun _ => ⟨Footprint.undoing.refl _, rfl⟩) names

theorem within_cleanUp (ledger : Ref Ledger) : Within settling (cleanUp ledger) := by
  refine within_bind (within_look _) fun tactic => ?_
  refine within_bind (within_settleResults _) fun _ => ?_
  refine within_bind (within_onWorld (Ledger.within_revertAll ledger)) fun _ => ?_
  exact within_change fun state => ⟨Footprint.undoing.refl _, rfl⟩

theorem onWorld_cases {α : Type} {task : Task α} {state after : Execution} {outcome : Outcome α}
    (run : onWorld task state = (outcome, after)) :
    task state.world = (outcome, after.world) ∧ after.tactic = state.tactic := by
  simp only [onWorld] at run
  cases run
  exact ⟨rfl, rfl⟩

theorem settleResults_cons {name : String} {rest : List String} {state after : Execution}
    {outcome : Outcome Unit} {result : StrikeResult}
    (found : state.tactic.strikeResults.get? name = some result)
    (run : settleResults (name :: rest) state = (outcome, after)) :
    (∃ other world, result.followThrough state.world = (.done other, world) ∧
      settleResults rest (kept name other { kept name result.withDefaultMessage state with
        world }) = (outcome, after)) ∨
    ∃ payload world, result.followThrough state.world = (.panicked payload, world) ∧
      outcome = .panicked payload ∧
      after = { kept name result.withDefaultMessage state with world } := by
  simp only [settleResults, bind_apply, tactic?, found, onTactic, change_apply, onWorld] at run
  cases followed : result.followThrough state.world with
  | mk ran world =>
    simp only [followed] at run
    cases ran with
    | done other => exact .inl ⟨other, world, rfl, run⟩
    | panicked payload =>
      cases run
      exact .inr ⟨payload, world, rfl, rfl, rfl⟩
    | ended ending => exact absurd followed result.lasts_followThrough.not_ended

theorem get?_kept_self (name : String) (result : StrikeResult) (state : Execution) :
    (kept name result state).tactic.strikeResults.get? name = some result :=
  Dict.get?_insert_self _ name result

theorem get?_kept_of_ne {name other : String} (result : StrikeResult) (state : Execution)
    (different : other ≠ name) :
    (kept name result state).tactic.strikeResults.get? other =
      state.tactic.strikeResults.get? other := by
  simp only [kept, Dict.get?_insert, different, ↓reduceIte]

/-- The state after one kept result was followed through differs from the one before in that
result alone. -/
theorem get?_kept_kept (name other : String) (first second : StrikeResult) (world : World)
    (state : Execution) :
    (kept name second { kept name first state with world }).tactic.strikeResults.get? other =
      if other = name then some second else state.tactic.strikeResults.get? other := by
  by_cases same : other = name
  · subst same
    rw [get?_kept_self, if_pos rfl]
  · rw [get?_kept_of_ne _ _ same, if_neg same]
    exact get?_kept_of_ne _ _ same

theorem settleResults_done {names : List String} {state after : Execution}
    (known : ∀ name ∈ names, ∃ result, state.tactic.strikeResults.get? name = some result)
    (run : settleResults names state = (.done (), after)) (name : String) :
    (name ∉ names →
      after.tactic.strikeResults.get? name = state.tactic.strikeResults.get? name) ∧
    (name ∈ names → ∃ result other, state.tactic.strikeResults.get? name = some result ∧
      after.tactic.strikeResults.get? name = some other ∧
      Followed result other after.world) := by
  induction names generalizing state with
  | nil =>
    cases run
    simp
  | cons head rest ih =>
    obtain ⟨found, later⟩ := List.forall_mem_cons.mp known
    obtain ⟨result, found⟩ := found
    rcases settleResults_cons found run with ⟨other, world, passed, run⟩ | ⟨_, _, -, ended, -⟩
    · have undone := ((within_settleResults rest).of_run run).undone
      have followed := followThrough_done passed
      have lookup (name : String) :=
        get?_kept_kept head name result.withDefaultMessage other world state
      have ih := ih (by
        intro name member
        obtain ⟨result, found⟩ := later name member
        rw [lookup]
        split
        · exact ⟨other, rfl⟩
        · exact ⟨result, found⟩) run
      rw [lookup] at ih
      -- A name may come again in the rest, and its result is then followed through once more.
      by_cases same : name = head
      · subst same
        simp only [↓reduceIte, Option.some.injEq, List.mem_cons, true_or, not_true_eq_false,
          false_implies, true_implies, true_and] at ih ⊢
        by_cases again : name ∈ rest
        · obtain ⟨_, last, rfl, found', next⟩ := ih.2 again
          exact ⟨result, last, found, found', followed.again undone next⟩
        · exact ⟨result, other, found, ih.1 again, followed.of_undone undone⟩
      · simpa [same] using ih
    · cases ended

/-- The pass over all kept results: each was followed through, and none came or went. -/
structure Passed (before after : Dict StrikeResult) (world : World) : Prop where
  kept : ∀ {name result}, before.get? name = some result →
    ∃ other, after.get? name = some other ∧ Followed result other world
  known : ∀ {name other}, after.get? name = some other →
    ∃ result, before.get? name = some result ∧ Followed result other world

theorem settleResults_keys {state after : Execution}
    (run : settleResults state.tactic.strikeResults.keys state = (.done (), after)) :
    Passed state.tactic.strikeResults after.tactic.strikeResults after.world := by
  have pass := settleResults_done (fun name member => Dict.mem_keys.mp member) run
  constructor
  · intro name result found
    obtain ⟨_, other, found', kept, followed⟩ :=
      (pass name).2 (Dict.mem_keys.mpr ⟨result, found⟩)
    rw [found] at found'
    cases found'
    exact ⟨other, kept, followed⟩
  · intro name other kept
    by_cases member : name ∈ state.tactic.strikeResults.keys
    · obtain ⟨result, _, found, kept', followed⟩ := (pass name).2 member
      rw [kept] at kept'
      cases kept'
      exact ⟨result, found, followed⟩
    · rw [(pass name).1 member] at kept
      exact absurd (Dict.mem_keys.mpr ⟨other, kept⟩) member

namespace Passed

variable {before after : Dict StrikeResult} {world : World} (pass : Passed before after world)

include pass

theorem of_undone {later : World} (undone : World.Undone world later) :
    Passed before after later where
  kept found := by
    obtain ⟨other, kept, followed⟩ := pass.kept found
    exact ⟨other, kept, followed.of_undone undone⟩
  known kept := by
    obtain ⟨result, found, followed⟩ := pass.known kept
    exact ⟨result, found, followed.of_undone undone⟩

theorem mem_keptChanges_iff (ref : Ref Change) :
    ref ∈ keptChanges after ↔ ref ∈ keptChanges before := by
  rw [mem_keptChanges, mem_keptChanges]
  constructor
  · rintro ⟨name, other, kept, member⟩
    obtain ⟨result, found, followed⟩ := pass.known kept
    exact ⟨name, result, found, followed.changes ▸ member⟩
  · rintro ⟨name, result, found, member⟩
    obtain ⟨other, kept, followed⟩ := pass.kept found
    exact ⟨name, other, kept, followed.changes.symm ▸ member⟩

theorem settled : ∀ ref ∈ keptChanges after, (world.change ref).Settled := by
  intro ref member
  obtain ⟨name, other, kept, member⟩ := mem_keptChanges.mp member
  obtain ⟨result, -, followed⟩ := pass.known kept
  exact followed.settled ref (followed.changes ▸ member)

/-- Results that have a message are as they were, but for the alert. -/
theorem get?_eq (name : String) (filled : ∀ result, before.get? name = some result →
    result.report.message.isEmpty = false) :
    after.get? name = (before.get? name).map (judged world) := by
  cases found : before.get? name with
  | some result =>
    obtain ⟨other, kept, followed⟩ := pass.kept found
    rw [kept, followed.same, withDefaultMessage_of_message (filled result found)]
    rfl
  | none =>
    cases kept : after.get? name with
    | none => rfl
    | some other =>
      obtain ⟨result, known, -⟩ := pass.known kept
      simp [found] at known

theorem alert_iff :
    (∃ other ∈ after.values, other.report.badStateAlert = true) ↔
      (∃ ref ∈ keptChanges after, (world.change ref).badState = true) ∨
        ∃ result ∈ before.values, result.report.badStateAlert = true := by
  constructor
  · rintro ⟨other, member, alert⟩
    obtain ⟨name, kept⟩ := Dict.mem_values.mp member
    obtain ⟨result, found, followed⟩ := pass.known kept
    rcases followed.alert.mp alert with old | ⟨ref, member, bad⟩
    · exact .inr ⟨result, Dict.mem_values.mpr ⟨name, found⟩, old⟩
    · rw [← followed.changes] at member
      exact .inl ⟨ref, mem_keptChanges.mpr ⟨name, other, kept, member⟩, bad⟩
  · rintro (⟨ref, member, bad⟩ | ⟨result, member, old⟩)
    · obtain ⟨name, other, kept, member⟩ := mem_keptChanges.mp member
      obtain ⟨result, -, followed⟩ := pass.known kept
      rw [followed.changes] at member
      exact ⟨other, Dict.mem_values.mpr ⟨name, kept⟩,
        followed.alert.mpr (.inr ⟨ref, member, bad⟩)⟩
    · obtain ⟨name, found⟩ := Dict.mem_values.mp member
      obtain ⟨other, kept, followed⟩ := pass.kept found
      exact ⟨other, Dict.mem_values.mpr ⟨name, kept⟩, followed.alert.mpr (.inl old)⟩

end Passed

/-- Only a revert function that panics stops the pass over the kept results, and its change stays
live. -/
theorem settleResults_panicked {names : List String} {state after : Execution} {payload : Payload}
    (run : settleResults names state = (.panicked payload, after)) :
    (∃ ref, ¬(after.world.change ref).Settled) ∧ ¬state.world.RevertsReturn := by
  induction names generalizing state with
  | nil => cases run
  | cons head rest ih =>
    cases found : state.tactic.strikeResults.get? head with
    | none =>
      simp only [settleResults, bind_apply, tactic?, found] at run
      exact ih run
    | some result =>
      rcases settleResults_cons found run with ⟨other, world, passed, run⟩ |
        ⟨_, world, stuck, -, rfl⟩
      · have undone := (within_followThrough result).of_run passed
        obtain ⟨pending, loud⟩ := ih run
        exact ⟨pending, fun gentle => loud (gentle.of_undone undone)⟩
      · obtain ⟨⟨ref, -, pending⟩, loud⟩ := followThrough_panicked stuck
        exact ⟨⟨ref, pending⟩, fun gentle => loud fun ref _ => gentle ref⟩

theorem cleanUp_panicked {ledger : Ref Ledger} {state after : Execution} {payload : Payload}
    (run : cleanUp ledger state = (.panicked payload, after)) :
    (∃ ref, ¬(after.world.change ref).Settled) ∧ ¬state.world.RevertsReturn := by
  rcases bind_eq_panicked run with looked | ⟨_, _, looked, run⟩
  · cases looked
  cases looked
  rcases bind_eq_panicked run with stuck | ⟨_, middle, passed, run⟩
  · exact settleResults_panicked stuck
  have undone := ((within_settleResults _).of_run passed).undone
  rcases bind_eq_panicked run with stuck | ⟨_, _, -, run⟩
  · obtain ⟨⟨ref, -, pending⟩, loud⟩ := Ledger.revertAll_panicked (onWorld_cases stuck).1
    exact ⟨⟨ref, pending⟩, fun gentle => loud (gentle.of_undone undone)⟩
  · cases run

theorem settleResults_settled (names : List String) {state : Execution}
    (settled : ∀ ref ∈ keptChanges state.tactic.strikeResults, (state.world.change ref).Settled) :
    ∃ after journal, settleResults names state = (.done (), after) ∧
      after.world = { state.world with journal := journal } := by
  induction names generalizing state with
  | nil => exact ⟨state, state.world.journal, rfl, rfl⟩
  | cons name rest ih =>
    cases found : state.tactic.strikeResults.get? name with
    | none =>
      simp only [settleResults, bind_apply, tactic?, found]
      exact ih settled
    | some result =>
      have own : ∀ ref ∈ result.report.changes, (state.world.change ref).Settled := fun ref member =>
        settled ref (mem_keptChanges.mpr ⟨name, result, found, member⟩)
      obtain ⟨other, journal, followed⟩ := followThrough_settled own
      have same := (followThrough_done followed).changes
      let middle : Execution := kept name other { kept name result.withDefaultMessage state with
        world := { state.world with journal := journal } }
      have still : ∀ ref ∈ keptChanges middle.tactic.strikeResults,
          (middle.world.change ref).Settled := by
        intro ref member
        obtain ⟨key, known, stored, member⟩ := mem_keptChanges.mp member
        rw [get?_kept_kept] at stored
        split at stored
        · cases stored
          exact own ref (same ▸ member)
        · exact settled ref (mem_keptChanges.mpr ⟨key, known, stored, member⟩)
      obtain ⟨after, journal', run, world⟩ := ih still
      refine ⟨after, journal', ?_, world⟩
      simp only [settleResults, bind_apply, tactic?, found, onTactic, change_apply, onWorld, followed]
      exact run

/-- Where everything is settled that is accounted for, cleaning up comes to its end and does nothing to
the world but write in the log. -/
theorem cleanUp_settled {ledger : Ref Ledger} {state : Execution}
    (settled : ∀ ref ∈ accounted ledger state, (state.world.change ref).Settled) :
    ∃ after journal, cleanUp ledger state = (.done (), after) ∧
      after.world = { state.world with journal := journal } := by
  obtain ⟨middle, journal, passed, world⟩ :=
    settleResults_settled state.tactic.strikeResults.keys fun ref member =>
      settled ref (mem_accounted.mpr (.inr member))
  have own : ∀ ref ∈ (middle.world.ledger ledger).changes, (middle.world.change ref).Settled := by
    rw [world]
    exact fun ref member => settled ref (mem_accounted.mpr (.inl member))
  obtain ⟨failures, journal', reverted⟩ := Ledger.revertAll_settled own
  rw [world] at reverted
  simp only [cleanUp, bind_apply, tactic?, passed, onWorld, world, reverted, onTactic, change_apply]
  exact ⟨_, journal', rfl, rfl⟩

structure CleanedUp (ledger : Ref Ledger) (before after : Execution) : Prop where
  same : ∀ ref, ref ∈ accounted ledger after ↔ ref ∈ accounted ledger before
  settled : ∀ ref ∈ accounted ledger after, (after.world.change ref).Settled
  alert : after.tactic.badStateAlert = true ↔
    (∃ ref ∈ accounted ledger after, (after.world.change ref).badState = true) ∨
      ∃ result ∈ before.tactic.strikeResults.values, result.report.badStateAlert = true
  swept : ∃ world failures, Ledger.revertAll ledger world = (.done failures, after.world)
  passed : Passed before.tactic.strikeResults after.tactic.strikeResults after.world

theorem cleanUp_done {ledger : Ref Ledger} {state after : Execution}
    (run : cleanUp ledger state = (.done (), after)) : CleanedUp ledger state after := by
  obtain ⟨_, _, looked, run⟩ := bind_eq_done run
  cases looked
  obtain ⟨_, middle, passed, run⟩ := bind_eq_done run
  obtain ⟨failures, swept, reverted, run⟩ := bind_eq_done run
  obtain ⟨reverted, same⟩ := onWorld_cases reverted
  cases run
  have undone := (Ledger.within_revertAll ledger).of_run reverted
  have pass := (settleResults_keys passed).of_undone undone
  have ledgers := (undone.ledger ledger).trans
    (((within_settleResults _).of_run passed).undone.ledger ledger)
  obtain ⟨settled, failed⟩ := Ledger.revertAll_done reverted
  rw [← same] at pass
  refine ⟨fun ref => ?_, fun ref member => ?_, ?_, ⟨middle.world, failures, reverted⟩, pass⟩
  · rw [mem_accounted, mem_accounted, ← ledgers]
    exact or_congr_right (pass.mem_keptChanges_iff ref)
  · rcases mem_accounted.mp member with own | kept
    · exact settled ref own
    · exact pass.settled ref kept
  · simp only [Bool.or_eq_true, Bool.not_eq_true', List.any_eq_true, failed, pass.alert_iff,
      mem_accounted, or_and_right, exists_or, or_assoc]

end Raid.Execution
