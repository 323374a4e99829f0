import Raid.Proofs.Change.Call

/-!
What applying and reverting a change can do. Each is taken apart once, into the answers that call no
function and the calls. From this: a revert settles its change, so that it is in bad state or
not live, and it leaves every change that is settled already as it is. A pass over many changes
settles them all, unless one of them panics.
-/

namespace Raid

namespace Change

open World

/-- In bad state, or not live: there is nothing left to revert. -/
def Settled (change : Change) : Prop := change.badState = true ∨ change.live = false

instance (change : Change) : Decidable change.Settled := inferInstanceAs (Decidable (_ ∨ _))

theorem not_settled_iff {change : Change} :
    ¬change.Settled ↔ change.badState = false ∧ change.live = true := by
  simp [Settled]

inductive Reverted (ref : Ref Change) (world : World) :
    Outcome (Except ChangeError Unit) → World → Prop
  | inert (bad : (world.change ref).badState = true) :
    Reverted ref world (.done (.error (world.change ref).inertError)) world
  | idle (fine : (world.change ref).badState = false) (idle : (world.change ref).live = false) :
    Reverted ref world (.done (.ok ())) world
  | missing (pending : ¬(world.change ref).Settled)
    (missing : (world.change ref).reverter = none) :
    Reverted ref world (.done (.error (.missingRevert (world.change ref).name)))
      (world.withChange ref ((world.change ref).spoiled (.missingRevert (world.change ref).name)))
  | undone {function : RevertFunction} {after : World} (pending : ¬(world.change ref).Settled)
    (own : (world.change ref).reverter = some function)
    (call : callRevert ref (world.change ref).targetOrNull function world =
      (.done (.ok ()), after)) :
    Reverted ref world (.done (.ok ())) (after.withChange ref (after.change ref).afterRevert)
  | failed {function : RevertFunction} {after : World} {reason : String}
    (pending : ¬(world.change ref).Settled)
    (own : (world.change ref).reverter = some function)
    (call : callRevert ref (world.change ref).targetOrNull function world =
      (.done (.error reason), after)) :
    Reverted ref world (.done (.error (.revertFailed (after.change ref).name reason)))
      (after.withChange ref
        ((after.change ref).spoiled (.revertFailed (after.change ref).name reason)))
  | panicked {function : RevertFunction} {after : World} {payload : Payload}
    (pending : ¬(world.change ref).Settled)
    (own : (world.change ref).reverter = some function)
    (call : callRevert ref (world.change ref).targetOrNull function world =
      (.panicked payload, after)) :
    Reverted ref world (.panicked payload) after

theorem revert_cases {ref : Ref Change} {world after : World}
    {outcome : Outcome (Except ChangeError Unit)} (run : revert ref world = (outcome, after)) :
    Reverted ref world outcome after := by
  suffices reverted : Reverted ref world (revert ref world).1 (revert ref world).2 by
    rwa [run] at reverted
  simp only [revert, Act.bind_apply, Act.read_apply]
  cases bad : (world.change ref).badState with
  | true => exact .inert bad
  | false =>
    cases live : (world.change ref).live with
    | false => exact .idle bad live
    | true =>
      have pending := not_settled_iff.mpr ⟨bad, live⟩
      cases own : (world.change ref).reverter with
      | none => exact .missing pending own
      | some function =>
        simp only [Bool.false_eq_true, Bool.not_true, ↓reduceIte, Act.bind_apply]
        cases call : callRevert ref (world.change ref).targetOrNull function world with
        | mk outcome after =>
          cases outcome with
          | done answer =>
            cases answer with
            | ok value => exact .undone pending own call
            | error reason => exact .failed pending own call
          | panicked payload => exact .panicked pending own call
          | ended ending =>
            exact absurd (congrArg Prod.fst call) (callRevert_not_ended ref _ function world ending)

inductive Applied (ref : Ref Change) (targetName : String) (input : Json) (world : World) :
    Outcome (Except ChangeError Json) → World → Prop
  | inert (bad : (world.change ref).badState = true) :
    Applied ref targetName input world (.done (.error (world.change ref).inertError)) world
  | lacking {error : ChangeError} (fine : (world.change ref).badState = false)
    (lacks : (world.change ref).lacks? = some error) :
    Applied ref targetName input world (.done (.error error))
      (world.withChange ref ((world.change ref).withError error))
  | live (fine : (world.change ref).badState = false) (whole : (world.change ref).lacks? = none)
    (live : (world.change ref).live = true) :
    Applied ref targetName input world (.done (.ok (world.change ref).targetOrNull)) world
  | made {function : ApplyFunction} {target : Json} {after : World}
    (fine : (world.change ref).badState = false) (whole : (world.change ref).lacks? = none)
    (idle : (world.change ref).live = false) (own : (world.change ref).applier = some function)
    (call : callApply ref targetName input function world = (.done (.ok target), after)) :
    Applied ref targetName input world (.done (.ok target))
      (after.withChange ref ((after.change ref).afterApply target))
  | failed {function : ApplyFunction} {reason : String} {after : World}
    (fine : (world.change ref).badState = false) (whole : (world.change ref).lacks? = none)
    (idle : (world.change ref).live = false) (own : (world.change ref).applier = some function)
    (call : callApply ref targetName input function world = (.done (.error reason), after)) :
    Applied ref targetName input world
      (.done (.error (.applyFailed (after.change ref).name reason)))
      (after.withChange ref
        ((after.change ref).spoiled (.applyFailed (after.change ref).name reason)))
  | panicked {function : ApplyFunction} {payload : Payload} {after : World}
    (fine : (world.change ref).badState = false) (whole : (world.change ref).lacks? = none)
    (idle : (world.change ref).live = false) (own : (world.change ref).applier = some function)
    (call : callApply ref targetName input function world = (.panicked payload, after)) :
    Applied ref targetName input world (.panicked payload) after

theorem applier_of_whole {change : Change} (whole : change.lacks? = none) :
    ∃ function, change.applier = some function := by
  cases own : change.applier with
  | some function => exact ⟨function, rfl⟩
  | none =>
    simp only [lacks?, own, Option.isNone_none, ↓reduceIte] at whole
    split at whole
    · cases whole
    · split at whole <;> cases whole

theorem apply_cases {ref : Ref Change} {targetName : String} {input : Json} {world after : World}
    {outcome : Outcome (Except ChangeError Json)}
    (run : apply ref targetName input world = (outcome, after)) :
    Applied ref targetName input world outcome after := by
  suffices applied : Applied ref targetName input world (apply ref targetName input world).1
      (apply ref targetName input world).2 by
    rwa [run] at applied
  simp only [apply, Act.bind_apply, Act.read_apply]
  cases bad : (world.change ref).badState with
  | true => exact .inert bad
  | false =>
    cases whole : (world.change ref).lacks? with
    | some error => exact .lacking bad whole
    | none =>
      obtain ⟨function, own⟩ := applier_of_whole whole
      cases live : (world.change ref).live with
      | true =>
        simp only [own]
        exact .live bad whole live
      | false =>
        simp only [own, Bool.false_eq_true, ↓reduceIte, Act.bind_apply]
        cases call : callApply ref targetName input function world with
        | mk outcome after =>
          cases outcome with
          | done answer =>
            cases answer with
            | ok target => exact .made bad whole live own call
            | error reason => exact .failed bad whole live own call
          | panicked payload => exact .panicked bad whole live own call
          | ended ending =>
            exact absurd (congrArg Prod.fst call)
              (callApply_not_ended ref targetName input function world ending)

end Change

/-- Changes were reverted: those that were settled are as they were, and so is all around them. -/
structure World.Undone (before after : World) : Prop where
  surroundings : after.surroundings = before.surroundings
  settled : ∀ ref, (before.change ref).Settled → after.change ref = before.change ref
  returns : ∀ ref, (before.change ref).RevertReturns → (after.change ref).RevertReturns

def World.RevertsReturn (world : World) : Prop := ∀ ref, (world.change ref).RevertReturns

def Footprint.undoing : Footprint World where
  allows := World.Undone
  refl _ := ⟨rfl, fun _ _ => rfl, fun _ => id⟩
  trans {first second third} begun ended := by
    refine ⟨ended.surroundings.trans begun.surroundings, ?_, ?_⟩
    · intro ref settled
      have same := begun.settled ref settled
      rw [ended.settled ref (same ▸ settled), same]
    · exact fun ref => ended.returns ref ∘ begun.returns ref

namespace World

variable {before after : World}

theorem Undone.of_journal (world : World) (journal : List Event) :
    Undone world { world with journal := journal } :=
  ⟨rfl, fun _ _ => rfl, fun _ => id⟩

theorem Undone.ledger (undone : Undone before after) (ledger : Ref Ledger) :
    after.ledger ledger = before.ledger ledger := ledger_of_surroundings undone.surroundings ledger

theorem Undone.settled_after (undone : Undone before after) {ref : Ref Change}
    (settled : (before.change ref).Settled) : (after.change ref).Settled :=
  (undone.settled ref settled).symm ▸ settled

theorem Undone.bad_iff (undone : Undone before after) {ref : Ref Change}
    (settled : (before.change ref).Settled) :
    (after.change ref).badState = true ↔ (before.change ref).badState = true := by
  rw [undone.settled ref settled]

theorem Undone.bad_after (undone : Undone before after) {ref : Ref Change}
    (bad : (before.change ref).badState = true) : (after.change ref).badState = true :=
  (undone.bad_iff (.inl bad)).mpr bad

theorem RevertsReturn.of_undone (returns : before.RevertsReturn) (undone : Undone before after) :
    after.RevertsReturn := fun ref => undone.returns ref (returns ref)

theorem Called.undone {ref : Ref Change} (called : Called ref before after)
    (pending : ¬(before.change ref).Settled) : Undone before after := by
  refine ⟨called.surroundings, ?_, ?_⟩
  · intro other settled
    exact called.others other fun same => pending (same ▸ settled)
  · intro other gentle
    by_cases same : other = ref
    · subst same
      exact called.returns gentle
    · rw [called.others other same]
      exact gentle

theorem Called.undone_withChange {ref : Ref Change} (called : Called ref before after)
    (pending : ¬(before.change ref).Settled) {change : Change}
    (same : change.reverter = (after.change ref).reverter) :
    Undone before (after.withChange ref change) := by
  have undone := called.undone pending
  refine ⟨undone.surroundings, ?_, ?_⟩
  · intro other settled
    have different : other ≠ ref := fun same => pending (same ▸ settled)
    rw [change_withChange_of_ne after change different, undone.settled other settled]
  · intro other gentle
    have kept := undone.returns other gentle
    by_cases own : other = ref
    · subst own
      rw [change_withChange_self]
      exact fun function found => kept function (same ▸ found)
    · rwa [change_withChange_of_ne after change own]

end World

namespace Change

open World

theorem callRevert_called_of_run {ref : Ref Change} {target : Json} {function : RevertFunction}
    {world after : World} {outcome : Outcome (Except String Unit)}
    (own : (world.change ref).reverter = some function)
    (call : callRevert ref target function world = (outcome, after)) :
    Called ref world after := by
  have called := callRevert_called ref target function world own
  rwa [call] at called

theorem callApply_called_of_run {ref : Ref Change} {targetName : String} {input : Json}
    {function : ApplyFunction} {world after : World} {outcome : Outcome (Except String Json)}
    (call : callApply ref targetName input function world = (outcome, after)) :
    Called ref world after := by
  have called := callApply_called ref targetName input function world
  rwa [call] at called

theorem apply_surroundings (ref : Ref Change) (targetName : String) (input : Json)
    (world : World) : (apply ref targetName input world).2.surroundings = world.surroundings := by
  cases run : apply ref targetName input world with
  | mk outcome after =>
    cases apply_cases run with
    | inert bad => rfl
    | lacking fine lacks => rfl
    | live fine whole live => rfl
    | made fine whole idle own call => exact (callApply_called_of_run call).surroundings
    | failed fine whole idle own call => exact (callApply_called_of_run call).surroundings
    | panicked fine whole idle own call => exact (callApply_called_of_run call).surroundings

theorem within_revert (ref : Ref Change) : Act.Within .undoing (revert ref) := by
  apply Act.within_of_run
  intro world outcome after run
  cases revert_cases run with
  | inert bad => exact Footprint.undoing.refl world
  | idle fine idle => exact Footprint.undoing.refl world
  | missing pending missing => exact (Called.of_files ref world rfl).undone_withChange pending rfl
  | undone pending own call =>
    exact (callRevert_called_of_run own call).undone_withChange pending rfl
  | failed pending own call =>
    exact (callRevert_called_of_run own call).undone_withChange pending rfl
  | panicked pending own call => exact (callRevert_called_of_run own call).undone pending

theorem revert_idle {ref : Ref Change} {world : World} (calm : (world.change ref).badState = false)
    (idle : (world.change ref).live = false) : revert ref world = (.done (.ok ()), world) := by
  simp only [revert, Act.bind_apply, Act.read_apply, calm, idle, Bool.false_eq_true, ↓reduceIte,
    Bool.not_false]
  rfl

/-- Reverting a change that is settled does nothing. -/
theorem revert_settled {ref : Ref Change} {world : World} (settled : (world.change ref).Settled) :
    ∃ answer, revert ref world = (.done answer, world) := by
  cases run : revert ref world with
  | mk outcome after =>
    cases revert_cases run with
    | inert bad => exact ⟨_, rfl⟩
    | idle fine idle => exact ⟨_, rfl⟩
    | missing pending missing => exact absurd settled pending
    | undone pending own call => exact absurd settled pending
    | failed pending own call => exact absurd settled pending
    | panicked pending own call => exact absurd settled pending

theorem lasts_revert (ref : Ref Change) : Act.Lasts (revert ref) := by
  intro world ending
  cases run : revert ref world with
  | mk outcome after => cases revert_cases run <;> simp

/-- A revert that comes to an answer settles its change. The answer is an error just when the change
is in bad state then. -/
theorem revert_done {ref : Ref Change} {world after : World} {answer : Except ChangeError Unit}
    (run : revert ref world = (.done answer, after)) :
    (after.change ref).Settled ∧
      ((after.change ref).badState = true ↔ ∃ error, answer = .error error) := by
  cases revert_cases run with
  | inert bad => exact ⟨.inl bad, by simp [bad]⟩
  | idle fine idle => exact ⟨.inr idle, by simp [fine]⟩
  | missing pending missing => simp [Settled, spoiled]
  | undone pending own call =>
    obtain ⟨applier, reverter, same⟩ := (callRevert_called_of_run own call).own
    simp [Settled, live, afterRevert, same, (not_settled_iff.mp pending).1]
  | failed pending own call => simp [Settled, spoiled]

/-- A revert that panics leaves its change live, and its function was one that may panic. -/
theorem revert_panicked {ref : Ref Change} {world after : World} {payload : Payload}
    (run : revert ref world = (.panicked payload, after)) :
    ¬(after.change ref).Settled ∧ ¬(world.change ref).RevertReturns := by
  cases revert_cases run with
  | @panicked function _ _ pending own call =>
    obtain ⟨applier, reverter, same⟩ := (callRevert_called_of_run own call).own
    refine ⟨?_, ?_⟩
    · rw [same]
      exact pending
    · intro gentle
      obtain ⟨answer, done⟩ := callRevert_done ref _ function world (gentle function own)
      rw [call] at done
      cases done

end Change

end Raid
