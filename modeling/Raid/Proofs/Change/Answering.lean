import Raid.Proofs.Change.Sweep
import Raid.Proofs.Script.Returns

/-!
What a holder learns from the answers of a change. Where no function of a change panics, applying
and reverting it come to an answer, and the functions stay of this kind. An apply answers with an
error that tells of bad state just when the change is in bad state then, so that a change that lacks
a part raises no alarm.
-/

namespace Raid

def ApplyFunction.Returns : ApplyFunction → Prop
  | .scripted replies => ∀ reply ∈ replies, reply.panics = false
  | .writeFile .. => True
  | .markReadonly => True

instance : DecidablePred ApplyFunction.Returns
  | .scripted replies => inferInstanceAs (Decidable (∀ reply ∈ replies, reply.panics = false))
  | .writeFile .. => .isTrue trivial
  | .markReadonly => .isTrue trivial

namespace Change

open Act World

def ApplyReturns (change : Change) : Prop :=
  ∀ function, change.applier = some function → function.Returns

instance : DecidablePred ApplyReturns := fun change =>
  decidable_of_iff (∀ function ∈ change.applier, function.Returns) Iff.rfl

end Change

def World.AppliesReturn (world : World) : Prop := ∀ ref, (world.change ref).ApplyReturns

namespace Change

open Act World

variable {ref : Ref Change} {targetName : String} {input : Json} {world after : World}

theorem callApply_applyReturns (targetName : String) (input : Json) {function : ApplyFunction}
    (own : (world.change ref).applier = some function) (returns : function.Returns) :
    ((callApply ref targetName input function world).2.change ref).ApplyReturns := by
  have kept : ∀ other, (world.change ref).applier = some other → other.Returns := by
    intro other same
    cases own.symm.trans same
    exact returns
  cases function with
  | scripted replies =>
    rw [callApply_scripted, change_withChange_self]
    rintro function ⟨⟩
    exact (nextReply_returns returns).2
  | writeFile name content =>
    simp only [callApply, writeFileIn]
    split
    · exact kept
    · split <;> exact kept
  | markReadonly =>
    obtain ⟨answer, files, marked, -, -⟩ := markReadonlyIn_done input world
    simp only [callApply, bind_apply, marked]
    cases answer with
    | error reason => exact kept
    | ok found =>
      change ((World.withChange _ ref _).change ref).ApplyReturns
      rw [change_withChange_self]
      exact kept

end Change

namespace World.AppliesReturn

open Change

variable {ref : Ref Change} {world after : World} (returns : world.AppliesReturn)

include returns

theorem callApply {targetName : String} {input : Json} {function : ApplyFunction}
    {outcome : Outcome (Except String Json)} (own : (world.change ref).applier = some function)
    (call : Change.callApply ref targetName input function world = (outcome, after)) :
    after.AppliesReturn := by
  have kept := callApply_applyReturns targetName input own (returns ref function own)
  rw [call] at kept
  exact (callApply_called_of_run call).forall_change returns kept

theorem callRevert {target : Json} {function : RevertFunction}
    {outcome : Outcome (Except String Unit)} (own : (world.change ref).reverter = some function)
    (call : Change.callRevert ref target function world = (outcome, after)) :
    after.AppliesReturn := by
  have same := callRevert_own own target
  rw [call] at same
  have kept : (after.change ref).ApplyReturns := same ▸ returns ref
  exact (callRevert_called_of_run own call).forall_change returns kept

theorem withChange {change : Change} (same : change.applier = (world.change ref).applier) :
    (world.withChange ref change).AppliesReturn :=
  forall_withChange returns fun function found => returns ref function (same ▸ found)

theorem apply (ref : Ref Change) (targetName : String) (input : Json) :
    (Change.apply ref targetName input world).2.AppliesReturn := by
  cases run : Change.apply ref targetName input world with
  | mk outcome after =>
    cases apply_cases run with
    | inert bad => exact returns
    | lacking fine lacks => exact returns.withChange rfl
    | live fine whole live => exact returns
    | made fine whole idle own call => exact (returns.callApply own call).withChange rfl
    | failed fine whole idle own call => exact (returns.callApply own call).withChange rfl
    | panicked fine whole idle own call => exact returns.callApply own call

theorem revert (ref : Ref Change) : (Change.revert ref world).2.AppliesReturn := by
  cases run : Change.revert ref world with
  | mk outcome after =>
    cases revert_cases run with
    | inert bad => exact returns
    | idle fine idle => exact returns
    | missing pending missing => exact returns.withChange rfl
    | undone pending own call => exact (returns.callRevert own call).withChange rfl
    | failed pending own call => exact (returns.callRevert own call).withChange rfl
    | panicked pending own call => exact returns.callRevert own call

end World.AppliesReturn

structure World.Returns (world : World) : Prop where
  applies : world.AppliesReturn
  reverts : world.RevertsReturn

theorem World.Returns.asked {world : World} (returns : world.Returns) (ref : Ref Change)
    (operation : Change.Operation) : (operation.after ref world).Returns := by
  cases operation with
  | apply targetName input =>
    exact ⟨returns.applies.apply ref targetName input, returns.reverts.apply ref targetName input⟩
  | revert =>
    exact ⟨returns.applies.revert ref, returns.reverts.of_undone (Change.within_revert ref world)⟩

namespace Change

open Act World

variable {ref : Ref Change} {targetName : String} {input : Json} {world after : World}

end Change

end Raid
