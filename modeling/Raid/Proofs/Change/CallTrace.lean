import Raid.Proofs.Change.CallOrder
import Raid.Proofs.Change.Transition

/-!
What the holders of a change ask of it, and the calls that come of it. However the holders apply and
revert it, the calls of its functions stay in order and the flags of the change are those that the
calls make.
-/

namespace Raid.Change

open World

inductive Operation where
  | apply (targetName : String) (input : Json)
  | revert

namespace Operation

/-- The call that an operation makes. A change that is inert, lacks a part or is where it should be
already is not called. -/
def call? (ref : Ref Change) (world : World) : Operation → Option Call
  | apply targetName input =>
    let change := world.change ref
    if change.badState || change.lacks?.isSome || change.live then none
    else change.applier.map fun function =>
      .apply targetName input (callApply ref targetName input function world).1
  | revert =>
    let change := world.change ref
    if change.Settled then none
    else change.reverter.map fun function =>
      .revert change.targetOrNull (callRevert ref change.targetOrNull function world).1

def after (ref : Ref Change) (world : World) : Operation → World
  | apply targetName input => (Change.apply ref targetName input world).2
  | revert => (Change.revert ref world).2

end Operation

def callsOf (ref : Ref Change) : World → List Operation → List Call
  | _, [] => []
  | world, operation :: rest =>
    (operation.call? ref world).toList ++ callsOf ref (operation.after ref world) rest

def afterAll (ref : Ref Change) : World → List Operation → World
  | world, [] => world
  | world, operation :: rest => afterAll ref (operation.after ref world) rest

variable {name : String} {calls : List Call}

namespace Traced

theorem of_called {ref : Ref Change} {before after : World} (called : Called ref before after)
    (traced : Traced name calls (before.change ref)) (whole : (before.change ref).lacks? = none) :
    Traced name calls (after.change ref) := by
  obtain ⟨applier, reverter, same⟩ := called.own
  have kept := called.whole whole
  rw [same] at kept ⊢
  exact traced.of_functions whole kept

theorem apply {ref : Ref Change} {world : World}
    (traced : Traced name calls (world.change ref)) (targetName : String) (input : Json) :
    Traced name (calls ++ ((Operation.apply targetName input).call? ref world).toList)
      ((Change.apply ref targetName input world).2.change ref) := by
  cases run : Change.apply ref targetName input world with
  | mk outcome after =>
    cases apply_cases run with
    | inert bad => simpa [Operation.call?, bad] using traced
    | lacking fine lacks =>
      simpa [Operation.call?, fine, lacks] using traced.withError fine lacks
    | live fine whole live => simpa [Operation.call?, live] using traced
    | @made function target middle fine whole idle own call =>
      have called := callApply_called_of_run call
      simpa [Operation.call?, fine, whole, idle, own, call] using
        (traced.of_called called whole).append_made (called.badState.trans fine)
          (called.whole whole) (called.live.trans idle) targetName input target
    | @failed function reason middle fine whole idle own call =>
      have called := callApply_called_of_run call
      have kept := traced.of_called called whole
      have noted : (Call.apply targetName input (.done (.error reason))).error? name =
          some (.applyFailed (middle.change ref).name reason) := by
        rw [kept.named]
        rfl
      simpa [Operation.call?, fine, whole, idle, own, call] using
        kept.append_failed _ (called.badState.trans fine) noted
          (by simp [Call.isApply, (traced.phase fine).mpr idle]) (by simp)
    | @panicked function payload _ fine whole idle own call =>
      have called := callApply_called_of_run call
      simpa [Operation.call?, fine, whole, idle, own, call] using
        (traced.of_called called whole).append_panicked (.apply targetName input (.panicked payload))
          (called.badState.trans fine) rfl (by simp)

theorem revert {ref : Ref Change} {world : World} (traced : Traced name calls (world.change ref)) :
    Traced name (calls ++ (Operation.revert.call? ref world).toList)
      ((Change.revert ref world).2.change ref) := by
  have whole (pending : ¬(world.change ref).Settled) : (world.change ref).lacks? = none :=
    traced.whole (applied_of_live (not_settled_iff.mp pending).2)
  cases run : Change.revert ref world with
  | mk outcome after =>
    cases revert_cases run with
    | inert bad => simpa [Operation.call?, Settled, bad] using traced
    | idle fine idle => simpa [Operation.call?, Settled, idle] using traced
    | missing pending missing =>
      -- A change without a revert function was never applied.
      have reverter := (lacks?_eq_none.mp (whole pending)).2.2.2
      rw [missing] at reverter
      cases reverter
    | @undone function middle pending own call =>
      have called := callRevert_called_of_run own call
      obtain ⟨fine, live⟩ := not_settled_iff.mp pending
      have kept := (traced.of_called called (whole pending)).append_undone
        (called.badState.trans fine) (called.live.trans live)
      rw [called.targetOrNull] at kept
      simpa [Operation.call?, pending, own, call] using kept
    | @failed function middle reason pending own call =>
      have called := callRevert_called_of_run own call
      obtain ⟨fine, live⟩ := not_settled_iff.mp pending
      have kept := traced.of_called called (whole pending)
      have noted : (Call.revert (world.change ref).targetOrNull (.done (.error reason))).error? name =
          some (.revertFailed (middle.change ref).name reason) := by
        rw [kept.named]
        rfl
      have appended := kept.append_failed _ (called.badState.trans fine) noted
        (by simp [Call.isApply, traced.phase fine, live])
        (by rintro target outcome ⟨⟩; exact traced.latest live)
      simpa [Operation.call?, pending, own, call] using appended
    | @panicked function middle payload pending own call =>
      have called := callRevert_called_of_run own call
      obtain ⟨fine, live⟩ := not_settled_iff.mp pending
      have appended := (traced.of_called called (whole pending)).append_panicked
        (.revert (world.change ref).targetOrNull (.panicked payload))
        (called.badState.trans fine) rfl
        (by rintro target outcome ⟨⟩; exact traced.latest live)
      simpa [Operation.call?, pending, own, call] using appended

theorem step {ref : Ref Change} {world : World} (traced : Traced name calls (world.change ref))
    (operation : Operation) :
    Traced name (calls ++ (operation.call? ref world).toList)
      ((operation.after ref world).change ref) := by
  cases operation with
  | apply targetName input => exact traced.apply targetName input
  | revert => exact traced.revert

theorem run {ref : Ref Change} {world : World} (traced : Traced name calls (world.change ref))
    (operations : List Operation) :
    Traced name (calls ++ callsOf ref world operations)
      ((afterAll ref world operations).change ref) := by
  induction operations generalizing calls world with
  | nil => simpa [callsOf, afterAll] using traced
  | cons operation rest ih => simpa [callsOf, afterAll] using ih (traced.step operation)

/-- A live change is not applied again. -/
theorem apply_live {ref : Ref Change} {world : World}
    (traced : Traced name calls (world.change ref)) (fine : (world.change ref).badState = false)
    (live : (world.change ref).live = true) (targetName : String) (input : Json) :
    ∃ target, latest? calls = some target ∧
      (Operation.apply targetName input).call? ref world = none ∧
      Change.apply ref targetName input world = (.done (.ok target), world) := by
  refine ⟨_, traced.latest live, by simp [Operation.call?, live], ?_⟩
  have whole := traced.whole (applied_of_live live)
  cases run : Change.apply ref targetName input world with
  | mk outcome after =>
    cases apply_cases run with
    | inert bad => simp [fine] at bad
    | lacking _ lacks => simp [whole] at lacks
    | live _ _ _ => rfl
    | made _ _ idle own call => simp [live] at idle
    | failed _ _ idle own call => simp [live] at idle
    | panicked _ _ idle own call => simp [live] at idle

end Traced

structure Scripted (change : Change) : Prop where
  applier : ∀ function, change.applier = some function → ∃ replies, function = .scripted replies
  reverter : ∀ function, change.reverter = some function → ∃ replies, function = .scripted replies

theorem Scripted.callApply {ref : Ref Change} {targetName : String} {input : Json}
    {function : ApplyFunction} {world after : World} {outcome : Outcome (Except String Json)}
    (scripted : (world.change ref).Scripted) (own : (world.change ref).applier = some function)
    (call : callApply ref targetName input function world = (outcome, after)) :
    after.journal = world.journal ++ [.applyCalled (world.change ref).name targetName input] ∧
      (after.change ref).Scripted := by
  obtain ⟨replies, rfl⟩ := scripted.applier function own
  rw [callApply_scripted] at call
  cases call
  refine ⟨rfl, ?_⟩
  rw [change_withChange_self]
  refine ⟨?_, scripted.reverter⟩
  rintro function ⟨⟩
  exact ⟨_, rfl⟩

theorem Scripted.callRevert {ref : Ref Change} {target : Json} {function : RevertFunction}
    {world after : World} {outcome : Outcome (Except String Unit)}
    (scripted : (world.change ref).Scripted) (own : (world.change ref).reverter = some function)
    (call : callRevert ref target function world = (outcome, after)) :
    after.journal = world.journal ++ [.revertCalled (world.change ref).name target] ∧
      (after.change ref).Scripted := by
  obtain ⟨replies, rfl⟩ := scripted.reverter function own
  rw [callRevert_scripted] at call
  cases call
  refine ⟨rfl, ?_⟩
  rw [change_withChange_self]
  refine ⟨scripted.applier, ?_⟩
  rintro function ⟨⟩
  exact ⟨_, rfl⟩

theorem Scripted.withChange {ref : Ref Change} {world : World} {change : Change}
    (scripted : (world.change ref).Scripted) (applier : change.applier = (world.change ref).applier)
    (reverter : change.reverter = (world.change ref).reverter) :
    ((world.withChange ref change).change ref).Scripted := by
  rw [change_withChange_self]
  exact ⟨applier ▸ scripted.applier, reverter ▸ scripted.reverter⟩

theorem Scripted.step {ref : Ref Change} {world : World} (scripted : (world.change ref).Scripted)
    (operation : Operation) :
    (operation.after ref world).journal = world.journal ++
        (operation.call? ref world).toList.map (Call.event (world.change ref).name) ∧
      ((operation.after ref world).change ref).Scripted := by
  cases operation with
  | apply targetName input =>
    simp only [Operation.after]
    cases run : Change.apply ref targetName input world with
    | mk outcome after =>
      cases apply_cases run with
      | inert bad => simpa [Operation.call?, bad] using scripted
      | lacking fine lacks =>
        exact ⟨by simp [Operation.call?, lacks], scripted.withChange rfl rfl⟩
      | live fine whole live => simpa [Operation.call?, live] using scripted
      | made fine whole idle own call =>
        obtain ⟨noted, kept⟩ := scripted.callApply own call
        exact ⟨by simpa [Operation.call?, fine, whole, idle, own, Call.event] using noted,
          kept.withChange rfl rfl⟩
      | failed fine whole idle own call =>
        obtain ⟨noted, kept⟩ := scripted.callApply own call
        exact ⟨by simpa [Operation.call?, fine, whole, idle, own, Call.event] using noted,
          kept.withChange rfl rfl⟩
      | panicked fine whole idle own call =>
        obtain ⟨noted, kept⟩ := scripted.callApply own call
        exact ⟨by simpa [Operation.call?, fine, whole, idle, own, Call.event] using noted, kept⟩
  | revert =>
    simp only [Operation.after]
    cases run : Change.revert ref world with
    | mk outcome after =>
      cases revert_cases run with
      | inert bad => simpa [Operation.call?, Settled, bad] using scripted
      | idle fine idle => simpa [Operation.call?, Settled, idle] using scripted
      | missing pending missing =>
        exact ⟨by simp [Operation.call?, missing], scripted.withChange rfl rfl⟩
      | undone pending own call =>
        obtain ⟨noted, kept⟩ := scripted.callRevert own call
        exact ⟨by simpa [Operation.call?, pending, own, Call.event] using noted,
          kept.withChange rfl rfl⟩
      | failed pending own call =>
        obtain ⟨noted, kept⟩ := scripted.callRevert own call
        exact ⟨by simpa [Operation.call?, pending, own, Call.event] using noted,
          kept.withChange rfl rfl⟩
      | panicked pending own call =>
        obtain ⟨noted, kept⟩ := scripted.callRevert own call
        exact ⟨by simpa [Operation.call?, pending, own, Call.event] using noted, kept⟩

/-- The journal of operations in turn is their calls. -/
theorem Scripted.run {ref : Ref Change} {world : World} (scripted : (world.change ref).Scripted)
    (traced : Traced name calls (world.change ref)) (operations : List Operation) :
    (afterAll ref world operations).journal =
      world.journal ++ (callsOf ref world operations).map (Call.event name) := by
  induction operations generalizing calls world with
  | nil => simp [afterAll, callsOf]
  | cons operation rest ih =>
    obtain ⟨noted, kept⟩ := scripted.step operation
    rw [afterAll, ih kept (traced.step operation), noted, traced.named]
    simp [callsOf]

/-- The calls of a change that was just made, whatever its holders ask of it and however its
functions come out. They are in order, and they determine the flags; a change that is live and not
in bad state answers an apply with what it has. When the functions are scripted these are the calls
that the journal shows. -/
theorem call_trace_of_newChange (name description : String) (applier : Option ApplyFunction)
    (reverter : Option RevertFunction) (world : World) (operations : List Operation) :
    ∃ ref start,
      Task.newChange { name, description, applier, reverter } world = (.done ref, start) ∧
      Orderly (callsOf ref start operations) ∧
      Recorded name (callsOf ref start operations) ((afterAll ref start operations).change ref) ∧
      (((afterAll ref start operations).change ref).lacks? = none →
        ((afterAll ref start operations).change ref).badState = false →
        ((afterAll ref start operations).change ref).lastError = none) ∧
      (((afterAll ref start operations).change ref).badState = false →
        ((afterAll ref start operations).change ref).live = true →
        ∀ targetName input, ∃ target, latest? (callsOf ref start operations) = some target ∧
          (Operation.apply targetName input).call? ref (afterAll ref start operations) = none ∧
          Change.apply ref targetName input (afterAll ref start operations) =
            (.done (.ok target), afterAll ref start operations)) ∧
      (Scripted { name, description, applier, reverter } →
        (afterAll ref start operations).journal =
          start.journal ++ (callsOf ref start operations).map (Call.event name)) := by
  let made : Change := { name, description, applier, reverter }
  let start := (Task.newChange made world).2
  have own : start.change ⟨world.changes.size⟩ = made := Table.get_add_self world.changes made
  have begun : Traced name [] (start.change ⟨world.changes.size⟩) := by
    rw [own]
    exact .start name description applier reverter
  have traced := begun.run operations
  rw [List.nil_append] at traced
  refine ⟨_, _, rfl, traced.orderly, traced.recorded, traced.clean, traced.apply_live, ?_⟩
  intro scripted
  exact Scripted.run (own ▸ scripted) begun operations

end Raid.Change
