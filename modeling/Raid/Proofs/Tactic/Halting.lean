import Raid.Proofs.Tactic.Aftermath

/-!
Which strike follows a strike. The loop over the strikes looks at the alert of the last result alone.
A body that panicked is judged by the whole ledger, a body that returned by the changes that its
result refers to; a tracked change in bad state that no movement refers to does not halt the loop.
-/

namespace Raid.Execution

open Act

def Start.following (before : List String) (start : Start) : List Start :=
  match runStrike start.strike start.context start.state with
  | (.done (), after) => starts before start.context start.rest after
  | _ => []

theorem starts_context (before : List String) (context : StrikeContext) (strikes : List Strike)
    (state : Execution) :
    ∀ start ∈ starts before context strikes state, start.context = context := by
  induction strikes generalizing state with
  | nil => simp [starts]
  | cons strike rest ih =>
    simp only [starts]
    split
    · simp
    · split
      · exact ih _
      · refine List.forall_mem_cons.mpr ⟨rfl, ?_⟩
        split
        · exact ih _
        · simp

theorem starts_drop {before : List String} {context : StrikeContext} {strikes : List Strike}
    {state : Execution} {i : Nat} {start : Start}
    (begun : (starts before context strikes state)[i]? = some start) :
    (starts before context strikes state).drop (i + 1) = start.following before := by
  induction strikes generalizing state i with
  | nil => simp [starts] at begun
  | cons strike rest ih =>
    cases alert : state.tactic.badStateAlert with
    | true => simp [starts, alert] at begun
    | false =>
      by_cases known : strike.name ∈ before
      · simp only [starts, alert, known, Bool.false_eq_true, ↓reduceIte] at begun ⊢
        exact ih begun
      · simp only [starts, alert, known, Bool.false_eq_true, ↓reduceIte] at begun ⊢
        cases i with
        | zero =>
          cases begun
          rfl
        | succ i =>
          rw [List.drop_succ_cons]
          rw [List.getElem?_cons_succ] at begun
          cases ran : runStrike strike context state with
          | mk outcome after =>
            simp only [ran] at begun ⊢
            cases outcome with
            | done value => exact ih begun
            | panicked payload => simp at begun
            | ended ending => simp at begun

theorem starts_eq_nil_iff {before : List String} {context : StrikeContext} {strikes : List Strike}
    {state : Execution} :
    starts before context strikes state = [] ↔
      state.tactic.badStateAlert = true ∨ ∀ strike ∈ strikes, strike.name ∈ before := by
  induction strikes generalizing state with
  | nil => simp [starts]
  | cons strike rest ih =>
    cases alert : state.tactic.badStateAlert with
    | true => simp [starts, alert]
    | false =>
      by_cases known : strike.name ∈ before
      · simp [starts, alert, known, ih, log_eq, noted]
      · simp [starts, alert, known]

/-- A further body starts just when the strike came to a result without an alert and one of the
strikes left was not executed before. -/
theorem following_ne_nil_iff {before : List String} {start : Start} {result : StrikeResult}
    {world : World} (closed : start.closed = (.done result, world)) :
    start.following before ≠ [] ↔
      result.report.badStateAlert = false ∧ ∃ strike ∈ start.rest, strike.name ∉ before := by
  rw [Start.closed] at closed
  simp only [Start.following, runStrike_eq, closed, ne_eq, starts_eq_nil_iff]
  simp [booked, counted]

/-- Each start of an execution is run with the execution's own context, and is followed by what
follows it. -/
theorem started_drop {state : Execution} {i : Nat} {start : Start}
    (begun : state.started[i]? = some start) :
    start.context = state.ownContext ∧
      state.started.drop (i + 1) = start.following state.namesBefore := by
  unfold started at begun ⊢
  split at begun
  · simp at begun
  · rename_i runs
    rw [if_neg runs]
    exact ⟨starts_context _ _ _ _ _ (List.mem_of_getElem? begun), starts_drop begun⟩

/-- The result of a strike that left a change of the ledger in bad state has no alert just when the
body had returned without one and the changes that the result refers to are not in bad state. -/
theorem calm_after_badState_iff {start : Start} {result : StrikeResult} {world : World}
    (closed : start.closed = (.done result, world))
    (bad : ∃ ref ∈ (world.ledger start.context.ledger).changes,
      (world.change ref).badState = true) :
    result.report.badStateAlert = false ↔
      ∃ handed middle, start.run = (.done handed, middle) ∧
        handed.report.badStateAlert = false ∧
        ∀ ref ∈ handed.report.changes, (world.change ref).badState = false := by
  cases closing_cases closed with
  | @returned handed _ middle _ body undone followed =>
    have same : start.run = (.done handed, middle) := body
    simp only [same, Prod.mk.injEq, Outcome.done.injEq, and_assoc, exists_eq_left',
      exists_and_left]
    rw [← Bool.not_eq_true, followed.alert]
    simp
  | @recovered _ payload middle _ body undone recovered =>
    have same : start.run = (.panicked payload, middle) := body
    simp [same, recovered.alert.mpr bad]

/-- When a strike has been run and followed through, and a change of the ledger is in bad state, no
further body starts. -/
def HaltsOnBadState (state : Execution) : Prop :=
  ∀ i (inside : i < state.started.length), state.started[i].closed.1.isDone = true →
    (∃ ref ∈ (state.started[i].closed.2.ledger state.ownLedger).changes,
      (state.started[i].closed.2.change ref).badState = true) →
    ¬i + 1 < state.started.length

/-- A strike was followed through and left a change of the ledger in bad state. A further body starts
all the same just when the body had returned without an alert of its own, the changes that its
result refers to are not in bad state, and a strike is left that was not executed before. -/
theorem starts_after_badState_iff {state : Execution} {i : Nat} (inside : i < state.started.length)
    (closed : state.started[i].closed.1.isDone = true)
    (bad : ∃ ref ∈ (state.started[i].closed.2.ledger state.ownLedger).changes,
      (state.started[i].closed.2.change ref).badState = true) :
    i + 1 < state.started.length ↔
      (∃ handed middle, state.started[i].run = (.done handed, middle) ∧
        handed.report.badStateAlert = false ∧
        ∀ ref ∈ handed.report.changes,
          (state.started[i].closed.2.change ref).badState = false) ∧
      ∃ strike ∈ state.started[i].rest, strike.name ∉ state.namesBefore := by
  obtain ⟨context, drop⟩ := started_drop (List.getElem?_eq_getElem inside)
  obtain ⟨result, done⟩ := Outcome.isDone_iff.mp closed
  have ran : state.started[i].closed = (.done result, state.started[i].closed.2) :=
    Prod.ext done rfl
  have tracked : state.started[i].context.ledger = state.ownLedger := by rw [context]; rfl
  have next : i + 1 < state.started.length ↔
      state.started[i].following state.namesBefore ≠ [] := by
    rw [← drop, ne_eq, List.drop_eq_nil_iff, Nat.not_le]
  rw [next, following_ne_nil_iff ran, calm_after_badState_iff ran (tracked ▸ bad)]

theorem started_abandoned : 0 < abandoned.started.length := by decide +kernel

/-- The second strike runs although the change of the first is in bad state. -/
theorem not_haltsOnBadState_abandoned : ¬HaltsOnBadState abandoned := by
  intro halts
  exact halts 0 started_abandoned (by decide +kernel) (by decide +kernel) (by decide +kernel)

theorem starts_after_badState_abandoned :
    (∃ handed middle, (abandoned.started.get ⟨0, started_abandoned⟩).run = (.done handed, middle) ∧
      handed.report.badStateAlert = false ∧
      ∀ ref ∈ handed.report.changes,
        ((abandoned.started.get ⟨0, started_abandoned⟩).closed.2.change ref).badState = false) ∧
    ∃ strike ∈ (abandoned.started.get ⟨0, started_abandoned⟩).rest,
      strike.name ∉ abandoned.namesBefore :=
  (starts_after_badState_iff started_abandoned (by decide +kernel) (by decide +kernel)).mp
    (by decide +kernel)

end Raid.Execution
