import Raid.Proofs.Script.Returns
import Raid.Proofs.Strike.FollowThrough
import Raid.Proofs.Tactic.Run

/-!
One strike of a tactic, from its body to the end of the following through. A body that panics is made
up for by a pass over the ledger, and a body that returns by a pass over the changes of its result;
a panic in either pass is not caught.
-/

namespace Raid.Execution

open Act

structure Recovered (ledger : Ref Ledger) (result : StrikeResult) (after : World) : Prop where
  movements : result.report.movements = {}
  failed : result.report.passed = false
  settled : ∀ ref ∈ (after.ledger ledger).changes, (after.change ref).Settled
  alert : result.report.badStateAlert = true ↔
    ∃ ref ∈ (after.ledger ledger).changes, (after.change ref).badState = true

theorem within_panickedResult (name : String) (payload : Payload) (ledger : Ref Ledger) :
    Within .undoing (panickedResult name payload ledger) :=
  within_bind (Task.within_emit _) fun _ =>
    within_bind (Ledger.within_revertAll ledger) fun _ => within_pure _

theorem lasts_panickedResult (name : String) (payload : Payload) (ledger : Ref Ledger) :
    Lasts (panickedResult name payload ledger) :=
  lasts_bind (lasts_of_done fun _ => rfl) fun _ =>
    lasts_bind (Ledger.lasts_revertAll ledger) fun _ => lasts_pure _

theorem panickedResult_done {name : String} {payload : Payload} {ledger : Ref Ledger}
    {world after : World} {result : StrikeResult}
    (run : panickedResult name payload ledger world = (.done result, after)) :
    Recovered ledger result after := by
  obtain ⟨_, logged, -, run⟩ := bind_eq_done run
  obtain ⟨failures, swept, reverted, run⟩ := bind_eq_done run
  obtain ⟨settled, failed⟩ := Ledger.revertAll_done reverted
  cases none : failures.isEmpty with
  | true =>
    simp only [none, ↓reduceIte] at run
    cases run
    exact ⟨rfl, rfl, settled, by simp [← failed, none, StrikeResult.withReport,
      StrikeResult.standalone]⟩
  | false =>
    simp only [none, Bool.false_eq_true, ↓reduceIte] at run
    cases run
    exact ⟨rfl, rfl, settled, by simp [← failed, none, StrikeResult.alerted,
      StrikeResult.withReport]⟩

theorem panickedResult_panicked {name : String} {payload other : Payload} {ledger : Ref Ledger}
    {world after : World} (run : panickedResult name payload ledger world = (.panicked other, after)) :
    (∃ ref ∈ (after.ledger ledger).changes, ¬(after.change ref).Settled) ∧
      ¬world.RevertsReturn := by
  rcases bind_eq_panicked run with noted | ⟨_, logged, noted, run⟩
  · cases noted
  · rcases bind_eq_panicked run with reverted | ⟨failures, swept, -, run⟩
    · obtain ⟨pending, loud⟩ := Ledger.revertAll_panicked reverted
      exact ⟨pending, fun gentle => loud (gentle.of_undone ((Task.within_emit _).of_run noted))⟩
    · cases run

/-- How a strike comes out that is run and followed through. Only its body can end the process. -/
inductive Closed (strike : Strike) (context : StrikeContext) (world : World) :
    Outcome StrikeResult → World → Prop
  | returned {handed result : StrikeResult} {middle after : World}
    (body : strike.run context world = (.done handed, middle))
    (undone : World.Undone middle after) (followed : StrikeResult.Followed handed result after) :
    Closed strike context world (.done result) after
  | recovered {result : StrikeResult} {payload : Payload} {middle after : World}
    (body : strike.run context world = (.panicked payload, middle))
    (undone : World.Undone middle after) (recovered : Recovered context.ledger result after) :
    Closed strike context world (.done result) after
  | stuck {handed : StrikeResult} {payload : Payload} {middle after : World}
    (body : strike.run context world = (.done handed, middle))
    (undone : World.Undone middle after)
    (pending : ∃ ref ∈ handed.report.changes, ¬(after.change ref).Settled)
    (loud : ¬middle.RevertsReturn) : Closed strike context world (.panicked payload) after
  | lost {payload other : Payload} {middle after : World}
    (body : strike.run context world = (.panicked payload, middle))
    (undone : World.Undone middle after)
    (pending : ∃ ref ∈ (after.ledger context.ledger).changes, ¬(after.change ref).Settled)
    (loud : ¬middle.RevertsReturn) : Closed strike context world (.panicked other) after
  | ended {ending : Ending} {after : World}
    (body : strike.run context world = (.ended ending, after)) :
    Closed strike context world (.ended ending) after

theorem Recovered.followed {ledger : Ref Ledger} {result kept : StrikeResult}
    {before after : World} (recovered : Recovered ledger result before)
    (undone : World.Undone before after) (followed : StrikeResult.Followed result kept after) :
    Recovered ledger kept after := by
  have none : result.report.changes = [] := by
    rw [StrikeReport.changes, recovered.movements]
    rfl
  have same := undone.ledger ledger
  refine ⟨followed.movements.trans recovered.movements, followed.passed.trans recovered.failed,
    ?_, ?_⟩
  · intro ref member
    rw [same] at member
    exact undone.settled_after (recovered.settled ref member)
  · rw [followed.alert, none, recovered.alert, same]
    simp only [List.not_mem_nil, false_and, exists_false, or_false]
    refine exists_congr fun ref => and_congr_right fun member => ?_
    exact (undone.bad_iff (recovered.settled ref member)).symm

theorem closing_cases {strike : Strike} {context : StrikeContext} {world after : World}
    {outcome : Outcome StrikeResult} (run : closing strike context world = (outcome, after)) :
    Closed strike context world outcome after := by
  cases body : strike.run context world with
  | mk ran middle =>
    simp only [closing, strikeResult, bind_apply, caught, body] at run
    cases ran with
    | ended ending =>
      cases run
      exact .ended body
    | done handed =>
      have undone := StrikeResult.within_followThrough handed |>.of_run run
      cases outcome with
      | done result => exact .returned body undone (StrikeResult.followThrough_done run)
      | ended ending => exact absurd run handed.lasts_followThrough.not_ended
      | panicked payload =>
        obtain ⟨pending, loud⟩ := StrikeResult.followThrough_panicked run
        exact .stuck body undone pending fun gentle => loud fun ref _ => gentle ref
    | panicked payload =>
      cases recover : panickedResult strike.name payload context.ledger middle with
      | mk ran recovered =>
        have undone := (within_panickedResult _ _ _).of_run recover
        simp only [recover] at run
        cases ran with
        | ended ending => exact absurd recover (lasts_panickedResult _ _ _).not_ended
        | panicked other =>
          cases run
          obtain ⟨pending, loud⟩ := panickedResult_panicked recover
          exact .lost body undone pending loud
        | done result =>
          have made := panickedResult_done recover
          have following := (StrikeResult.within_followThrough result).of_run run
          cases outcome with
          | done kept =>
            exact .recovered body (Footprint.undoing.trans undone following)
              (made.followed following (StrikeResult.followThrough_done run))
          | ended ending => exact absurd run result.lasts_followThrough.not_ended
          | panicked other =>
            obtain ⟨⟨ref, member, -⟩, -⟩ := StrikeResult.followThrough_panicked run
            rw [StrikeReport.changes, made.movements] at member
            cases member

end Raid.Execution
