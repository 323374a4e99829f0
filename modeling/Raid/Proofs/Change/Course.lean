import Raid.Proofs.Change.CallTrace

/-!
The calls of the functions of all changes, along a course of the world. On a course changes are made,
applied and reverted, and besides that nothing happens to a change. The journal of a course shows its
calls of scripted functions, and no course undoes a change more often than it makes it: what a
successful apply made due a successful revert uses up.
-/

namespace Raid

def ApplyFunction.notes : ApplyFunction → Bool
  | .scripted _ => true
  | _ => false

def RevertFunction.notes : RevertFunction → Bool
  | .scripted _ => true
  | _ => false

namespace Change

open World

/-- A revert of the change would call its function. -/
def due (change : Change) : Bool :=
  !change.badState && change.live && change.reverter.isSome

structure Heard where
  ref : Ref Change
  call : Call
  event? : Option Event

namespace Operation

def notes (change : Change) : Operation → Bool
  | apply .. => change.applier.any ApplyFunction.notes
  | revert => change.reverter.any RevertFunction.notes

def heard? (ref : Ref Change) (world : World) (operation : Operation) : Option Heard :=
  (operation.call? ref world).map fun call =>
    ⟨ref, call, if operation.notes (world.change ref)
      then some (call.event (world.change ref).name) else none⟩

end Operation

/-- The way from one world to another, with the calls of the functions of changes. -/
inductive Course : World → List Heard → World → Prop
  | aside {before after : World} (changes : after.changes = before.changes)
    (journal : after.journal = before.journal) : Course before [] after
  | noted (world : World) {event : Event} (quiet : event.isCall = false) :
    Course world [] { world with journal := world.journal ++ [event] }
  | made (world : World) {change : Change} (idle : change.due = false) :
    Course world [] (Task.newChange change world).2
  | asked (world : World) (ref : Ref Change) (operation : Operation) :
    Course world (operation.heard? ref world).toList (operation.after ref world)
  | trans {first second third : World} {calls later : List Heard}
    (begun : Course first calls second) (ended : Course second later third) :
    Course first (calls ++ later) third

section

variable {ref : Ref Change} {world after : World}

theorem callApply_journal {targetName : String} {input : Json} {function : ApplyFunction}
    {outcome : Outcome (Except String Json)}
    (call : callApply ref targetName input function world = (outcome, after)) :
    after.journal = world.journal ++
      if function.notes then [.applyCalled (world.change ref).name targetName input] else [] := by
  cases function with
  | scripted replies =>
    rw [callApply_scripted] at call
    cases call
    rfl
  | writeFile name content =>
    simp only [callApply, writeFileIn] at call
    split at call
    · cases call
      simp [ApplyFunction.notes]
    · split at call <;> cases call <;> simp [ApplyFunction.notes]
  | markReadonly =>
    obtain ⟨answer, files, marked, -, -⟩ := markReadonlyIn_done input world
    simp only [callApply, Act.bind_apply, marked] at call
    cases answer <;> cases call <;> simp [ApplyFunction.notes]

theorem callRevert_journal {target : Json} {function : RevertFunction}
    {outcome : Outcome (Except String Unit)}
    (call : callRevert ref target function world = (outcome, after)) :
    after.journal = world.journal ++
      if function.notes then [.revertCalled (world.change ref).name target] else [] := by
  cases function with
  | scripted replies =>
    rw [callRevert_scripted] at call
    cases call
    rfl
  | removeFile =>
    obtain ⟨answer, files, removed, -⟩ := removeFileOf_done target world
    rw [callRevert, removed] at call
    cases call
    simp [RevertFunction.notes]
  | restorePermissions noted =>
    obtain ⟨answer, files, restored, -⟩ := callRevert_restorePermissions ref target noted world
    rw [restored] at call
    cases call
    simp [RevertFunction.notes]

theorem events_one (ref : Ref Change) (call : Call) (notes : Bool) (event : Event) :
    [Heard.mk ref call (if notes then some event else none)].filterMap Heard.event? =
      if notes then [event] else [] := by
  cases notes <;> rfl

theorem Operation.journal (operation : Operation) (ref : Ref Change) (world : World) :
    (operation.after ref world).journal =
      world.journal ++ (operation.heard? ref world).toList.filterMap Heard.event? := by
  cases operation with
  | apply targetName input =>
    simp only [after]
    cases run : Change.apply ref targetName input world with
    | mk outcome after =>
      cases apply_cases run with
      | inert bad => simp [heard?, call?, bad]
      | lacking fine lacks => simp [heard?, call?, lacks]
      | live fine whole live => simp [heard?, call?, live]
      | made fine whole idle own call =>
        rw [journal_withChange, callApply_journal call]
        simp [heard?, call?, notes, fine, whole, idle, own, Call.event, events_one]
      | failed fine whole idle own call =>
        rw [journal_withChange, callApply_journal call]
        simp [heard?, call?, notes, fine, whole, idle, own, Call.event, events_one]
      | panicked fine whole idle own call =>
        rw [callApply_journal call]
        simp [heard?, call?, notes, fine, whole, idle, own, Call.event, events_one]
  | revert =>
    simp only [after]
    cases run : Change.revert ref world with
    | mk outcome after =>
      cases revert_cases run with
      | inert bad => simp [heard?, call?, Settled, bad]
      | idle fine idle => simp [heard?, call?, Settled, idle]
      | missing pending missing => simp [heard?, call?, missing]
      | undone pending own call =>
        rw [journal_withChange, callRevert_journal call]
        simp [heard?, call?, notes, pending, own, Call.event, events_one]
      | failed pending own call =>
        rw [journal_withChange, callRevert_journal call]
        simp [heard?, call?, notes, pending, own, Call.event, events_one]
      | panicked pending own call =>
        rw [callRevert_journal call]
        simp [heard?, call?, notes, pending, own, Call.event, events_one]

end

/-- The events of calls in the journal are those of the calls on the course. -/
theorem Course.journal {before after : World} {calls : List Heard}
    (course : Course before calls after) :
    after.journal.filter Event.isCall =
      before.journal.filter Event.isCall ++ calls.filterMap Heard.event? := by
  induction course with
  | aside changes journal => simp [journal]
  | noted world quiet => simp [quiet]
  | made world idle => simp [Task.newChange]
  | asked world ref operation =>
    rw [operation.journal, List.filter_append]
    refine congrArg _ (List.filter_eq_self.mpr fun event member => ?_)
    obtain ⟨heard, member, noted⟩ := List.mem_filterMap.mp member
    obtain ⟨call, -, rfl⟩ := Option.map_eq_some_iff.mp (Option.mem_toList.mp member)
    obtain ⟨-, same⟩ := Option.ite_none_right_eq_some.mp noted
    obtain rfl := Option.some.inj same
    cases call <;> rfl
  | trans begun ended ih ih' => rw [ih', ih, List.filterMap_append, List.append_assoc]

def timesMade (ref : Ref Change) (calls : List Heard) : Nat :=
  calls.countP fun heard => heard.ref = ref && heard.call.isApply && heard.call.succeeded

def timesUndone (ref : Ref Change) (calls : List Heard) : Nat :=
  calls.countP fun heard => heard.ref = ref && !heard.call.isApply && heard.call.succeeded

section

variable {ref other : Ref Change} {world after : World}

theorem times_append (ref : Ref Change) (calls later : List Heard) :
    timesMade ref (calls ++ later) = timesMade ref calls + timesMade ref later ∧
      timesUndone ref (calls ++ later) = timesUndone ref calls + timesUndone ref later :=
  ⟨List.countP_append, List.countP_append⟩

theorem Operation.others (operation : Operation) (world : World) (different : other ≠ ref) :
    timesMade other (operation.heard? ref world).toList = 0 ∧
      timesUndone other (operation.heard? ref world).toList = 0 ∧
      (operation.after ref world).change other = world.change other := by
  have silent : ∀ heard ∈ (operation.heard? ref world).toList, heard.ref ≠ other := by
    intro heard member
    obtain ⟨call, -, rfl⟩ := Option.map_eq_some_iff.mp (Option.mem_toList.mp member)
    exact different.symm
  refine ⟨?_, ?_, ?_⟩
  · exact List.countP_eq_zero.mpr fun heard member => by simp [silent heard member]
  · exact List.countP_eq_zero.mpr fun heard member => by simp [silent heard member]
  · cases operation with
    | apply targetName input =>
      simp only [after]
      cases run : Change.apply ref targetName input world with
      | mk outcome after =>
        cases apply_cases run with
        | inert bad => rfl
        | lacking fine lacks => exact change_withChange_of_ne world _ different
        | live fine whole live => rfl
        | made fine whole idle own call =>
          rw [change_withChange_of_ne _ _ different]
          exact (callApply_called_of_run call).others other different
        | failed fine whole idle own call =>
          rw [change_withChange_of_ne _ _ different]
          exact (callApply_called_of_run call).others other different
        | panicked fine whole idle own call =>
          exact (callApply_called_of_run call).others other different
    | revert =>
      simp only [after]
      cases run : Change.revert ref world with
      | mk outcome after =>
        cases revert_cases run with
        | inert bad => rfl
        | idle fine idle => rfl
        | missing pending missing => exact change_withChange_of_ne world _ different
        | undone pending own call =>
          rw [change_withChange_of_ne _ _ different]
          exact (callRevert_called_of_run own call).others other different
        | failed pending own call =>
          rw [change_withChange_of_ne _ _ different]
          exact (callRevert_called_of_run own call).others other different
        | panicked pending own call =>
          exact (callRevert_called_of_run own call).others other different

/-- An apply that succeeds is all that makes a change due. -/
theorem balance_apply (ref : Ref Change) (targetName : String) (input : Json) (world : World) :
    timesUndone ref ((Operation.apply targetName input).heard? ref world).toList +
        (((Operation.apply targetName input).after ref world).change ref).due.toNat ≤
      timesMade ref ((Operation.apply targetName input).heard? ref world).toList +
        (world.change ref).due.toNat := by
  simp only [Operation.after]
  cases run : Change.apply ref targetName input world with
  | mk outcome after =>
    cases apply_cases run with
    | inert bad => simp [Operation.heard?, Operation.call?, bad, timesUndone]
    | lacking fine lacks =>
      rw [change_withChange_self]
      simp [Operation.heard?, Operation.call?, lacks, timesUndone, due, withError, Change.live]
    | live fine whole live => simp [Operation.heard?, Operation.call?, live, timesUndone]
    | @made function target middle fine whole idle own call =>
      have once := Bool.toNat_le (due ((middle.change ref).afterApply target))
      simpa [Operation.heard?, Operation.call?, fine, whole, idle, own, call, timesUndone, timesMade,
        Call.isApply, Call.succeeded] using Nat.le_trans once (Nat.le_add_right _ _)
    | failed fine whole idle own call =>
      simp [Operation.heard?, Operation.call?, fine, whole, idle, own, call, timesUndone, due,
        spoiled, Call.isApply]
    | panicked fine whole idle own call =>
      have called := callApply_called_of_run call
      simp [Operation.heard?, Operation.call?, fine, whole, idle, own, call, timesUndone, due,
        called.live, Call.isApply]

/-- A revert that succeeds finds the change due and leaves it not so. -/
theorem balance_revert (ref : Ref Change) (world : World) :
    timesUndone ref (Operation.revert.heard? ref world).toList +
        ((Operation.revert.after ref world).change ref).due.toNat ≤
      timesMade ref (Operation.revert.heard? ref world).toList + (world.change ref).due.toNat := by
  simp only [Operation.after]
  cases run : Change.revert ref world with
  | mk outcome after =>
    cases revert_cases run with
    | inert bad => simp [Operation.heard?, Operation.call?, Settled, bad, timesUndone]
    | idle fine idle => simp [Operation.heard?, Operation.call?, Settled, idle, timesUndone]
    | missing pending missing =>
      simp [Operation.heard?, Operation.call?, missing, timesUndone, due, spoiled]
    | @undone function middle pending own call =>
      obtain ⟨fine, live⟩ := not_settled_iff.mp pending
      have owed : (world.change ref).due = true := by simp [due, fine, live, own]
      have spent : ((middle.change ref).afterRevert).due = false := by
        simp [due, afterRevert, Change.live]
      simp [Operation.heard?, Operation.call?, pending, own, call, timesUndone, timesMade, owed,
        spent, Call.isApply, Call.succeeded]
    | failed pending own call =>
      simp [Operation.heard?, Operation.call?, pending, own, call, timesUndone, due, spoiled,
        Call.isApply, Call.succeeded]
    | panicked pending own call =>
      obtain ⟨fine, live⟩ := not_settled_iff.mp pending
      have once := Bool.toNat_le (due (after.change ref))
      simpa [Operation.heard?, Operation.call?, pending, own, call, timesUndone, due, fine, live,
        Call.isApply, Call.succeeded] using Nat.le_trans once (Nat.le_add_left _ _)

/-- A change that is made anew is not due, and the others are as they were. -/
theorem due_newChange (ref : Ref Change) (world : World) {change : Change}
    (idle : change.due = false) :
    ((Task.newChange change world).2.change ref).due.toNat ≤ (world.change ref).due.toNat := by
  by_cases own : ref.index = world.changes.size
  · have same : (Task.newChange change world).2.change ref = change := by
      cases ref
      cases own
      exact Table.get_add_self world.changes change
    simp [same, idle]
  · have same : (Task.newChange change world).2.change ref = world.change ref :=
      Table.get_add_of_ne world.changes change own
    exact Nat.le_of_eq (by rw [same])

end

/-- On a course no change is undone more often than it is made, but for what was due when the course
began, and less what is due at its end. -/
theorem Course.balance {before after : World} {calls : List Heard}
    (course : Course before calls after) (ref : Ref Change) :
    timesUndone ref calls + (after.change ref).due.toNat ≤
      timesMade ref calls + (before.change ref).due.toNat := by
  induction course with
  | aside changes journal => simp [World.change, changes, timesMade, timesUndone]
  | noted world quiet => exact Nat.le_refl _
  | made world idle => simpa [timesMade, timesUndone] using due_newChange ref world idle
  | asked world own operation =>
    by_cases same : ref = own
    · subst same
      cases operation with
      | apply targetName input => exact balance_apply ref targetName input world
      | revert => exact balance_revert ref world
    · obtain ⟨unmade, kept, same⟩ := operation.others world same
      simp [unmade, kept, same]
  | @trans _ _ _ calls later begun ended ih ih' =>
    obtain ⟨made, undone⟩ := times_append ref calls later
    omega

end Change

end Raid
