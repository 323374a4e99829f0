import Raid.Proofs.Results.Loading
import Raid.Proofs.Tactic.Retaining

/-!
What becomes of the alert of a tactic. No body starts under an alert, and an alert that a strike
raises is there at the end, however the execution comes out. An alert that the tactic came with is
judged anew by the cleaning up: it stays where a result that the tactic kept has raised the alert or
refers to a change in bad state.
-/

namespace Raid.Execution

open Act

def Start.Raises (start : Start) : Prop :=
  ∃ kept world, start.closed = (.done kept, world) ∧ kept.report.badStateAlert = true

/-- A result that the tactic keeps has raised the alert, or refers to a change that is in bad state
in this world. -/
def Troubled (results : Dict StrikeResult) (world : World) : Prop :=
  ∃ result ∈ results.values, result.report.badStateAlert = true ∨
    ∃ ref ∈ result.report.changes, (world.change ref).badState = true

instance (results : Dict StrikeResult) (world : World) : Decidable (Troubled results world) :=
  inferInstanceAs (Decidable (∃ _ ∈ _, _))

theorem troubled_iff {results : Dict StrikeResult} {world : World} :
    Troubled results world ↔
      (∃ ref ∈ keptChanges results, (world.change ref).badState = true) ∨
        ∃ result ∈ results.values, result.report.badStateAlert = true := by
  constructor
  · rintro ⟨result, member, raised | ⟨ref, known, bad⟩⟩
    · exact .inr ⟨result, member, raised⟩
    · exact .inl ⟨ref, List.mem_flatMap.mpr ⟨result, member, known⟩, bad⟩
  · rintro (⟨ref, known, bad⟩ | ⟨result, member, raised⟩)
    · obtain ⟨result, member, known⟩ := List.mem_flatMap.mp known
      exact ⟨result, member, .inr ⟨ref, known, bad⟩⟩
    · exact ⟨result, member, .inl raised⟩

def Alarmed (state : Execution) : Prop := state.tactic.badStateAlert = true

@[simp] theorem alarmed_withWatch (slot : Option (Ref WatchSlot)) (watch : Option Watch)
    (state : Execution) : (state.withWatch slot watch).Alarmed ↔ state.Alarmed := by
  simp [Alarmed]

@[simp] theorem alarmed_concluded (slot : Option (Ref WatchSlot)) (event : Event)
    (cleaned : Execution) : (concluded slot event cleaned).Alarmed ↔ cleaned.Alarmed := Iff.rfl

@[simp] theorem troubled_concluded (results : Dict StrikeResult) (slot : Option (Ref WatchSlot))
    (event : Event) (cleaned : Execution) :
    Troubled results (concluded slot event cleaned).world ↔ Troubled results cleaned.world := by
  simp [Troubled]

theorem within_settleResults_alarmed (names : List String) :
    Within (.keeping Alarmed) (settleResults names) :=
  within_settleResults_of (fun _ _ => id) (fun _ _ _ => id) names

/-- Cleaning up that comes to no end leaves the alert as it found it. -/
theorem cleanUp_stuck_alarmed {ledger : Ref Ledger} {state after : Execution} {payload : Payload}
    (run : cleanUp ledger state = (.panicked payload, after)) (alarmed : state.Alarmed) :
    after.Alarmed := by
  rcases bind_eq_panicked run with looked | ⟨_, _, looked, run⟩
  · cases looked
  cases looked
  rcases bind_eq_panicked run with stuck | ⟨_, middle, passed, run⟩
  · exact (within_settleResults_alarmed _).of_run stuck alarmed
  have kept := (within_settleResults_alarmed _).of_run passed alarmed
  rcases bind_eq_panicked run with stuck | ⟨_, _, -, run⟩
  · exact (congrArg Tactic.badStateAlert (onWorld_cases stuck).2).trans kept
  · cases run

variable {before : List String} {context : StrikeContext} {strikes : List Strike}
  {state after : Execution} {begun : List Start} {outcome : Outcome Unit}

theorem Looped.done_of_alarmed (loop : Looped before context strikes state begun outcome after)
    (alarmed : state.Alarmed) : outcome = .done () := by
  cases loop with
  | finished state => rfl
  | halted alert => rfl
  | skipped calm known going => exact absurd alarmed (by simp [Alarmed, calm])
  | ran calm fresh closed going => exact absurd alarmed (by simp [Alarmed, calm])
  | panicked calm fresh closed => exact absurd alarmed (by simp [Alarmed, calm])
  | ended calm fresh closed => exact absurd alarmed (by simp [Alarmed, calm])

theorem Looped.calm (loop : Looped before context strikes state begun outcome after) :
    ∀ start ∈ begun, ¬start.state.Alarmed := by
  induction loop with
  | finished state => simp
  | halted alert => simp
  | skipped calm known going ih => exact ih
  | ran calm fresh closed going ih =>
    exact List.forall_mem_cons.mpr ⟨by simp [Alarmed, calm], ih⟩
  | panicked calm fresh closed => simp [Alarmed, calm]
  | ended calm fresh closed => simp [Alarmed, calm]

/-- When a strike raises the alert its start is the last one, and the loop ends with the alert and
with a kept result that has raised it. -/
theorem Looped.of_raises (loop : Looped before context strikes state begun outcome after)
    {earlier later : List Start} {start : Start} (order : begun = earlier ++ start :: later)
    (raises : start.Raises) :
    later = [] ∧ outcome = .done () ∧ after.Alarmed ∧
      ∃ result ∈ after.tactic.strikeResults.values, result.report.badStateAlert = true := by
  obtain ⟨result, world, same, alert⟩ := raises
  induction loop generalizing earlier with
  | finished state => simp at order
  | halted alert => simp at order
  | skipped calm known going ih => exact ih order
  | ran calm fresh closed going ih =>
    cases earlier with
    | cons first earlier => exact ih (List.cons.inj order).2
    | nil =>
      -- The result that raised the alert is booked, and the loop does nothing more.
      obtain ⟨rfl, rfl⟩ := List.cons.inj order
      cases closed.symm.trans same
      obtain ⟨none, tactic, -⟩ := going.of_alert alert
      refine ⟨none, going.done_of_alarmed alert, (congrArg Tactic.badStateAlert tactic).trans alert,
        result, ?_, alert⟩
      rw [tactic]
      exact booked_mem _ _ _
  | panicked calm fresh closed =>
    have only : start ∈ earlier ++ start :: later := List.mem_append_cons_self
    rw [← order, List.mem_singleton] at only
    cases closed.symm.trans (only ▸ same)
  | ended calm fresh closed =>
    have only : start ∈ earlier ++ start :: later := List.mem_append_cons_self
    rw [← order, List.mem_singleton] at only
    cases closed.symm.trans (only ▸ same)

structure AlertKept (state : Execution) (outcome : Outcome (Except TacticError Unit))
    (after : Execution) : Prop where
  calm : ∀ start ∈ state.started, ¬start.state.Alarmed
  raised : ∀ earlier start later, state.started = earlier ++ start :: later → start.Raises →
    later = [] ∧ after.Alarmed
  brought : state.Alarmed → state.started = [] ∧
    (after.Alarmed ↔ outcome.isDone = false ∨ Troubled state.tactic.strikeResults after.world)
  answered : ∀ answer, outcome = .done answer → Answered after.tactic answer

/-- Cleaning up where the ledger is empty judges by the kept results alone. -/
theorem cleanUp_troubled {ledger : Ref Ledger} {state after : Execution}
    (run : cleanUp ledger state = (.done (), after)) (empty : state.world.ledger ledger = {}) :
    after.Alarmed ↔ Troubled state.tactic.strikeResults after.world := by
  have clean := cleanUp_done run
  have same (ref : Ref Change) :
      ref ∈ accounted ledger after ↔ ref ∈ keptChanges state.tactic.strikeResults := by
    rw [clean.same, mem_accounted, empty]
    simp
  simp only [Alarmed, clean.alert, troubled_iff, same]

/-- Where the tactic comes with the alert, the loop does nothing, and its results are those that the
tactic came with. -/
theorem Executed.brought {outcome : Outcome (Except TacticError Unit)}
    (executed : Executed state outcome after) (alarmed : state.Alarmed) :
    state.started = [] ∧
      (after.Alarmed ↔
        outcome.isDone = false ∨ Troubled state.tactic.strikeResults after.world) := by
  cases executed with
  | @returned looped cleaned event loop swept =>
    obtain ⟨none, tactic, world⟩ := loop.of_alert alarmed
    have results : (looped.restored state.tactic.strikes).tactic.strikeResults =
        state.tactic.strikeResults := congrArg (·.strikeResults) tactic
    have empty : (looped.restored state.tactic.strikes).world.ledger state.ownLedger = {} := by
      change looped.world.ledger state.ownLedger = {}
      rw [world]
      exact state.entered_ledger
    have judged := cleanUp_troubled swept empty
    rw [results] at judged
    exact ⟨none, by simpa [Outcome.isDone] using judged⟩
  | @interrupted looped payload loop => cases loop.done_of_alarmed alarmed
  | @unswept looped cleaned payload loop swept =>
    obtain ⟨none, tactic, -⟩ := loop.of_alert alarmed
    have kept := cleanUp_stuck_alarmed swept ((congrArg Tactic.badStateAlert tactic).trans alarmed)
    exact ⟨none, by simpa [Outcome.isDone] using kept⟩
  | ended loop => cases loop.done_of_alarmed alarmed

theorem Executed.raised {outcome : Outcome (Except TacticError Unit)}
    (executed : Executed state outcome after) {earlier later : List Start} {start : Start}
    (order : state.started = earlier ++ start :: later) (raises : start.Raises) :
    later = [] ∧ after.Alarmed := by
  cases executed with
  | returned event loop swept =>
    obtain ⟨last, -, -, raised⟩ := loop.of_raises order raises
    exact ⟨last, (cleanUp_done swept).alert.mpr (.inr raised)⟩
  | interrupted loop => cases (loop.of_raises order raises).2.1
  | unswept loop swept =>
    obtain ⟨last, -, alarmed, -⟩ := loop.of_raises order raises
    exact ⟨last, by simpa using cleanUp_stuck_alarmed swept alarmed⟩
  | ended loop => cases (loop.of_raises order raises).2.1

theorem Executed.calm {outcome : Outcome (Except TacticError Unit)}
    (executed : Executed state outcome after) : ∀ start ∈ state.started, ¬start.state.Alarmed := by
  cases executed with
  | returned event loop swept => exact loop.calm
  | interrupted loop => exact loop.calm
  | unswept loop swept => exact loop.calm
  | ended loop => exact loop.calm

/-- A tactic that comes with the alert is cleaned up and answers, unless a revert function
panics. -/
theorem Executed.done_of_alarmed {outcome : Outcome (Except TacticError Unit)}
    (executed : Executed state outcome after) (alarmed : state.Alarmed)
    (returns : state.world.RevertsReturn) : outcome.isDone = true := by
  cases executed with
  | returned event loop swept => rfl
  | interrupted loop => cases loop.done_of_alarmed alarmed
  | @unswept looped cleaned payload loop swept =>
    obtain ⟨-, -, world⟩ := loop.of_alert alarmed
    have kept : (looped.restored state.tactic.strikes).world.RevertsReturn := by
      change looped.world.RevertsReturn
      rw [world]
      exact returns.of_changes (entered_changes state)
    exact absurd kept (cleanUp_panicked swept).2
  | ended loop => cases loop.done_of_alarmed alarmed

/-- The execution of a tactic that was not executed before. No body starts under an alert; a strike
that raises the alert is the last to start, and the alert is there at the end, however the execution
comes out. A tactic that comes with the alert runs no strike and answers unless a revert function
panics. It keeps the alert then, and otherwise just when a result that it came with has raised the
alert or refers to a change that is in bad state in the end. An answer agrees with the alert. -/
theorem execute_alertKept {state : Execution} (named : state.tactic.name ≠ "")
    (fresh : state.tactic.status = .notStarted) :
    AlertKept state (execute state).1 (execute state).2 ∧
      (state.Alarmed → state.world.RevertsReturn → (execute state).1.isDone = true) := by
  have filled : state.tactic.name.isEmpty = false := by simpa using named
  have ran : Executed state (execute state).1 (execute state).2 := executed filled fresh rfl
  refine ⟨⟨ran.calm, fun _ _ _ => ran.raised, ran.brought, ?_⟩, ran.done_of_alarmed⟩
  intro answer done
  rw [done] at ran
  exact ran.answered

def raising : Execution where
  world := {}
  tactic := { name := "t", context := { service := "svc", ledger := ⟨0⟩ }, executed := ⟨0⟩
              strikes := [trying "s1" "c1" (.failure ["refused"]), passing "s2" "second" []] }

/-- A tactic that comes with the alert, with the result that raised it and with a further strike. -/
def alarmed : Execution where
  world := {}
  tactic := { name := "t", context := { service := "svc", ledger := ⟨0⟩ }, executed := ⟨0⟩
              strikes := [passing "s2" "second" []], badStateAlert := true
              strikeResults := .ofList [("s1", { report := { badStateAlert := true } })] }

/-- The first strike raises the alert and is the only one to start; a tactic that comes with the
alert answers bad state. -/
theorem execute_alertKept_raising :
    (∃ start, raising.started = [start] ∧ start.Raises ∧ (execute raising).2.Alarmed) ∧
      alarmed.started = [] ∧ (execute alarmed).1 = .done (.error (.badState "t")) := by
  constructor
  · have first : raising.started.head?.map (fun start => (start.closed.1.isDone,
        start.closed.1.map fun kept => kept.report.badStateAlert)) =
        some (true, .done true) := by decide +kernel
    obtain ⟨start, order, same⟩ := Option.map_eq_some_iff.mp first
    obtain ⟨later, order⟩ := List.head?_eq_some_iff.mp order
    obtain ⟨ended, alert⟩ := Prod.mk.inj same
    obtain ⟨kept, world, closed⟩ := Outcome.exists_of_isDone ended
    have raises : start.Raises :=
      ⟨kept, world, closed, by simpa [closed, Outcome.map] using alert⟩
    obtain ⟨rfl, raised⟩ :=
      (execute_alertKept (by decide) rfl).1.raised [] start later order raises
    exact ⟨start, order, raises, raised⟩
  · have done : (execute alarmed).1.isDone = true := by decide +kernel
    have troubled : Troubled alarmed.tactic.strikeResults (execute alarmed).2.world := by
      decide +kernel
    have name : (execute alarmed).2.tactic.name = "t" := by decide +kernel
    have kept : AlertKept alarmed _ _ := (execute_alertKept (by decide) rfl).1
    obtain ⟨none, raised⟩ := kept.brought rfl
    obtain ⟨answer, returned⟩ := Outcome.isDone_iff.mp done
    have alert := raised.mpr (.inr troubled)
    cases kept.answered answer returned with
    | badState alert status passed => exact ⟨none, by rw [returned, name]⟩
    | failed calm failed status passed => simp [Alarmed, calm] at alert
    | passed calm fine status passed => simp [Alarmed, calm] at alert

def AnswersAlert (state : Execution) : Prop :=
  state.Alarmed → state.started = [] ∧
    (execute state).1 = .done (.error (.badState state.tactic.name)) ∧
    (execute state).2.Alarmed ∧ (execute state).2.tactic.passed = false ∧
    (execute state).2.tactic.status = .haltedBadState

def alarmedText : String :=
  "name: t\npassed: false\nbad_state_alert: true\nattempts: 0\nsuccesses: 0\nfailures: 0\n"

def alarmedWorld : World where
  files := { entries := [(["t.yaml"], .file alarmedText .newFile)] }

/-- A tactic that comes with the alert and with a result whose change cannot be reverted but by a
panic. -/
def cornered : Execution where
  world := { changes := ⟨1, [(0, Change.afterApply {
    name := "c", description := "d", applier := some (.scripted [])
    reverter := some (.scripted [.panic (.text "boom")]) } .null)]⟩ }
  tactic := { alarmed.tactic with
    strikeResults := .ofList [("s1", { report := {
      badStateAlert := true
      movements := .ofList [("mv", { changes := .ofList [("c", ⟨0⟩)] })] } })] }

/-- A tactic that is loaded with the alert, but without the result that raised it, passes; and a
revert function that panics keeps a tactic from any answer. -/
theorem not_answersAlert_loaded :
    (¬∀ (world : World) (path : String) (tactic : Tactic) (after : World),
      loadTactic path world = (.done (.ok tactic), after) → tactic.name ≠ "" →
        tactic.status = .notStarted → AnswersAlert ⟨after, tactic⟩) ∧
      ¬AnswersAlert cornered := by
  constructor
  · have facts : (loadTactic "t.yaml" alarmedWorld).1.map (Except.map fun tactic =>
        (tactic.name, tactic.status, tactic.badStateAlert,
          (execute ⟨(loadTactic "t.yaml" alarmedWorld).2, tactic⟩).2.tactic.passed)) =
        .done (.ok ("t", .notStarted, true, true)) := by decide +kernel
    obtain ⟨tactic, after, loaded, same⟩ := Outcome.exists_of_map_eq_ok facts
    rw [loaded] at same
    obtain ⟨name, status, alert, passed⟩ : tactic.name = "t" ∧ tactic.status = .notStarted ∧
        tactic.badStateAlert = true ∧ _ = true := by simpa only [Prod.mk.injEq] using same
    intro answers
    obtain ⟨-, -, -, failed, -⟩ :=
      answers alarmedWorld "t.yaml" tactic after loaded (by simp [name]) status alert
    simp [passed] at failed
  · have panicked : (execute cornered).1.isDone = false := by decide +kernel
    intro answers
    obtain ⟨-, answered, -⟩ := answers rfl
    simp [answered, Outcome.isDone] at panicked

end Raid.Execution
