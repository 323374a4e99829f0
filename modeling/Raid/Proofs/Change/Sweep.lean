import Raid.Proofs.Change.Course
import Raid.Proofs.Change.Pass

/-!
Passes over the same changes in another order, or more than once. What the first revert of a change
comes to is decided by the change and by what its function answers; a second one finds the change
settled. So where the revert functions do not meddle with each other, every pass over the same changes
makes the same calls and leaves the same states, in whatever order it goes and with whatever
repetitions.
-/

namespace Raid

def RevertFunction.called : RevertFunction → RevertFunction
  | .scripted replies => .scripted (Change.nextReply replies).2
  | .removeFile => .removeFile
  | .restorePermissions _ => .restorePermissions none

namespace Change

open Act World

theorem callRevert_own {ref : Ref Change} {world : World} {function : RevertFunction}
    (own : (world.change ref).reverter = some function) (target : Json) :
    (callRevert ref target function world).2.change ref =
      { world.change ref with reverter := some function.called } := by
  cases function with
  | scripted replies => rw [callRevert_scripted, change_withChange_self]; rfl
  | removeFile =>
    obtain ⟨answer, files, removed, -⟩ := removeFileOf_done target world
    rw [callRevert, removed, RevertFunction.called, ← own]
    rfl
  | restorePermissions noted =>
    obtain ⟨answer, files, restored, -⟩ := callRevert_restorePermissions ref target noted world
    rw [restored]
    exact change_withChange_self world ref _

theorem removeFileOf_congr (target : Json) {first second : World}
    (files : first.files = second.files) :
    (removeFileOf target first).1 = (removeFileOf target second).1 := by
  simp only [removeFileOf, files]
  split
  · rfl
  · split <;> rfl

theorem restorePermissionsOf_congr (noted : Option Permissions) (target : Json) {first second : World}
    (files : first.files = second.files) :
    (restorePermissionsOf noted target first).1 = (restorePermissionsOf noted target second).1 := by
  simp only [restorePermissionsOf, files]
  split
  · rfl
  · rfl
  · split <;> rfl

/-- Of all the world a call depends on the files alone. -/
theorem callRevert_congr (ref : Ref Change) (target : Json) (function : RevertFunction)
    {first second : World} (files : first.files = second.files) :
    (callRevert ref target function first).1 = (callRevert ref target function second).1 := by
  cases function with
  | scripted replies => rw [callRevert_scripted, callRevert_scripted]
  | removeFile => exact removeFileOf_congr target files
  | restorePermissions noted => exact restorePermissionsOf_congr noted target files

def revertedBy (change : Change) : Option Call → Outcome (Except ChangeError Unit) × Change
  | some (.revert _ outcome) =>
    let called := { change with reverter := change.reverter.map RevertFunction.called }
    match outcome with
    | .done (.ok ()) => (.done (.ok ()), called.afterRevert)
    | .done (.error reason) =>
      let error := ChangeError.revertFailed change.name reason
      (.done (.error error), called.spoiled error)
    | .panicked payload => (.panicked payload, called)
    | .ended ending => (.ended ending, called)
  | _ =>
    if change.badState then (.done (.error change.inertError), change)
    else if change.live then
      let error := ChangeError.missingRevert change.name
      (.done (.error error), change.spoiled error)
    else (.done (.ok ()), change)

theorem revert_eq (ref : Ref Change) (world : World) :
    ((revert ref world).1, (revert ref world).2.change ref) =
      (world.change ref).revertedBy (Operation.revert.call? ref world) := by
  cases run : revert ref world with
  | mk outcome after =>
    cases revert_cases run with
    | inert bad => simp [Operation.call?, revertedBy, Settled, bad]
    | idle fine idle => simp [Operation.call?, revertedBy, Settled, fine, idle]
    | missing pending missing =>
      simp [Operation.call?, revertedBy, missing, not_settled_iff.mp pending]
    | undone pending own call =>
      have called := callRevert_own own (world.change ref).targetOrNull
      rw [call] at called
      simp [Operation.call?, revertedBy, pending, own, call, called]
    | failed pending own call =>
      have called := callRevert_own own (world.change ref).targetOrNull
      rw [call] at called
      simp [Operation.call?, revertedBy, pending, own, call, called]
    | panicked pending own call =>
      have called := callRevert_own own (world.change ref).targetOrNull
      rw [call] at called
      simp [Operation.call?, revertedBy, pending, own, call, called]

/-- What a revert comes to is decided by the change and by the call that is made of it. -/
theorem revert_congr {ref : Ref Change} {first second : World}
    (same : first.change ref = second.change ref)
    (call : Operation.revert.call? ref first = Operation.revert.call? ref second) :
    (revert ref first).2.change ref = (revert ref second).2.change ref := by
  have decided := (revert_eq ref first).trans (by rw [same, call, ← revert_eq])
  exact congrArg Prod.snd decided

theorem call?_congr {ref : Ref Change} {first second : World}
    (same : first.change ref = second.change ref)
    (answers : ∀ target function, (second.change ref).reverter = some function →
      (callRevert ref target function first).1 = (callRevert ref target function second).1) :
    Operation.revert.call? ref first = Operation.revert.call? ref second := by
  simp only [Operation.call?, same]
  cases own : (second.change ref).reverter with
  | none => rfl
  | some function => rw [Option.map_some, Option.map_some, answers _ function own]

theorem call?_of_settled {ref : Ref Change} {world : World}
    (settled : (world.change ref).Settled) : Operation.revert.call? ref world = none := by
  simp only [Operation.call?, if_pos settled]

theorem call?_length_le (ref : Ref Change) (world : World) :
    (Operation.revert.call? ref world).toList.length ≤ 1 := by
  cases Operation.revert.call? ref world <;> simp

structure Reversion where
  ref : Ref Change
  answer : Except ChangeError Unit
  call? : Option Call

def Reversion.error? (reversion : Reversion) : Option ChangeError :=
  match reversion.answer with
  | .ok () => none
  | .error error => some error

theorem Reversion.error?_isSome {reversion : Reversion} :
    reversion.error?.isSome = true ↔ ∃ error, reversion.answer = .error error := by
  unfold error?
  split <;> simp [*]

def refsOf (pass : List Reversion) : List (Ref Change) := pass.map Reversion.ref

def callsIn (ref : Ref Change) (pass : List Reversion) : List Call :=
  (pass.filter fun reversion => reversion.ref = ref).filterMap Reversion.call?

def FailsIn (ref : Ref Change) (pass : List Reversion) : Prop :=
  ∃ reversion ∈ pass, reversion.ref = ref ∧ reversion.error?.isSome = true

inductive Swept : World → List Reversion → World → Prop
  | nothing (world : World) : Swept world [] world
  | noted {world after : World} {event : Event} {pass : List Reversion}
    (quiet : event.isCall = false)
    (later : Swept { world with journal := world.journal ++ [event] } pass after) :
    Swept world pass after
  | reverted {world middle after : World} {ref : Ref Change} {answer : Except ChangeError Unit}
    {pass : List Reversion} (run : revert ref world = (.done answer, middle))
    (later : Swept middle pass after) :
    Swept world (⟨ref, answer, Operation.revert.call? ref world⟩ :: pass) after

/-- The revert functions of the changes do not meddle with each other: wherever reverts of some of
them lead to, reverting one of them changes nothing of what a call of another one would answer. -/
def Apart (refs : List (Ref Change)) (world : World) : Prop :=
  ∀ pass middle, Swept world pass middle → refsOf pass ⊆ refs →
    ∀ ref ∈ refs, ∀ other ∈ refs, other ≠ ref →
      ∀ answer after, revert ref middle = (.done answer, after) →
        Operation.revert.call? other after = Operation.revert.call? other middle

section

variable {refs : List (Ref Change)} {ref other : Ref Change} {world middle after : World}
  {pass : List Reversion} {answer : Except ChangeError Unit}

theorem callsIn_cons_self (call? : Option Call) :
    callsIn ref (⟨ref, answer, call?⟩ :: pass) = call?.toList ++ callsIn ref pass := by
  cases call? <;> simp [callsIn]

theorem callsIn_cons_of_ne (call? : Option Call) (different : other ≠ ref) :
    callsIn other (⟨ref, answer, call?⟩ :: pass) = callsIn other pass := by
  simp [callsIn, Ne.symm different]

theorem revert_others (run : revert ref world = (.done answer, after)) (different : other ≠ ref) :
    after.change other = world.change other := by
  have kept := (Operation.revert.others world different).2.2
  rwa [Operation.after, run] at kept

theorem Swept.undone (swept : Swept world pass after) : World.Undone world after := by
  induction swept with
  | nothing world => exact Footprint.undoing.refl world
  | noted quiet later ih => exact Footprint.undoing.trans (.of_journal _ _) ih
  | reverted run later ih => exact Footprint.undoing.trans ((within_revert _).of_run run) ih

theorem Apart.noted (apart : Apart refs world) {event : Event} (quiet : event.isCall = false) :
    Apart refs { world with journal := world.journal ++ [event] } :=
  fun pass middle swept => apart pass middle (.noted quiet swept)

theorem Apart.reverted (apart : Apart refs world) (member : ref ∈ refs)
    (run : revert ref world = (.done answer, middle)) : Apart refs middle :=
  fun _ _ swept inside => apart _ _ (.reverted run swept) (List.cons_subset.mpr ⟨member, inside⟩)

/-- A change that is settled is not called, and stays as it is. -/
theorem Swept.of_settled (swept : Swept world pass after) (settled : (world.change ref).Settled) :
    after.change ref = world.change ref ∧ callsIn ref pass = [] := by
  refine ⟨swept.undone.settled ref settled, ?_⟩
  induction swept with
  | nothing world => rfl
  | noted quiet later ih => exact ih settled
  | @reverted world middle after own answer pass run later ih =>
    have ih := ih (((within_revert own).of_run run).settled_after settled)
    by_cases same : ref = own
    · subst same
      rw [callsIn_cons_self, call?_of_settled settled, ih]
      rfl
    · rw [callsIn_cons_of_ne _ same, ih]

/-- A change that is not among those of the pass is left alone. -/
theorem Swept.of_not_mem (swept : Swept world pass after) (absent : ref ∉ refsOf pass) :
    after.change ref = world.change ref ∧ callsIn ref pass = [] := by
  induction swept with
  | nothing world => exact ⟨rfl, rfl⟩
  | noted quiet later ih => exact ih absent
  | reverted run later ih =>
    obtain ⟨different, absent⟩ := List.ne_and_not_mem_of_not_mem_cons absent
    obtain ⟨same, none⟩ := ih absent
    exact ⟨same.trans (revert_others run different), (callsIn_cons_of_ne _ different).trans none⟩

/-- A change of the pass comes to what reverting it at once would make of it, with the same call. -/
theorem Swept.of_mem (swept : Swept world pass after) (apart : Apart refs world)
    (inside : refsOf pass ⊆ refs) (member : ref ∈ refsOf pass) :
    after.change ref = (revert ref world).2.change ref ∧
      callsIn ref pass = (Operation.revert.call? ref world).toList := by
  induction swept with
  | nothing world => cases member
  | @noted world after event pass quiet later ih =>
    obtain ⟨change, calls⟩ := ih (apart.noted quiet) inside member
    have call := @call?_congr ref { world with journal := world.journal ++ [event] } world rfl
      fun target function _ => callRevert_congr ref target function rfl
    exact ⟨change.trans (revert_congr rfl call), calls.trans (congrArg Option.toList call)⟩
  | @reverted world middle after own answer pass run later ih =>
    obtain ⟨first, inside⟩ := List.cons_subset.mp inside
    by_cases same : ref = own
    · -- From here on the change is settled, whether it comes again or not.
      subst same
      obtain ⟨kept, none⟩ := later.of_settled (revert_done run).1
      rw [callsIn_cons_self, none, List.append_nil, kept, run]
      exact ⟨rfl, rfl⟩
    · have member := List.mem_of_ne_of_mem same member
      obtain ⟨change, calls⟩ := ih (apart.reverted first run) inside member
      have call := apart _ _ (.nothing world) (List.nil_subset refs) own first ref (inside member)
        same answer middle run
      rw [callsIn_cons_of_ne _ same, change, calls, call]
      exact ⟨revert_congr (revert_others run same) call, rfl⟩

/-- A revert of a pass returned an error just when the pass leaves its change in bad state. -/
theorem Swept.error?_eq (swept : Swept world pass after) :
    ∀ reversion ∈ pass, reversion.error?.isSome = (after.change reversion.ref).badState := by
  induction swept with
  | nothing world => simp
  | noted quiet later ih => exact ih
  | reverted run later ih =>
    obtain ⟨settled, bad⟩ := revert_done run
    refine List.forall_mem_cons.mpr ⟨?_, ih⟩
    rw [Bool.eq_iff_iff, Reversion.error?_isSome, later.undone.bad_iff settled, bad]

/-- The changes of a pass for which an error was returned are those that it leaves in bad state. -/
theorem Swept.failsIn_iff (swept : Swept world pass after) :
    FailsIn ref pass ↔ ref ∈ refsOf pass ∧ (after.change ref).badState = true := by
  constructor
  · rintro ⟨reversion, member, rfl, failed⟩
    exact ⟨List.mem_map_of_mem member, swept.error?_eq reversion member ▸ failed⟩
  · rintro ⟨member, bad⟩
    obtain ⟨reversion, known, rfl⟩ := List.mem_map.mp member
    exact ⟨reversion, known, rfl, swept.error?_eq reversion known ▸ bad⟩

/-- A pass of the program is such a pass, and returns the errors of its reverts. -/
theorem revertEach_swept {area : LogArea} {heading : String} {failures : List ChangeError}
    (run : revertEach area heading refs world = (.done failures, after)) :
    ∃ pass, Swept world pass after ∧ refsOf pass = refs ∧
      failures = pass.filterMap Reversion.error? := by
  induction refs generalizing world failures with
  | nil =>
    cases run
    exact ⟨[], .nothing _, rfl, rfl⟩
  | cons ref rest ih =>
    obtain ⟨answer, middle, first, run⟩ := bind_eq_done run
    cases answer with
    | ok value =>
      obtain ⟨pass, swept, same, rfl⟩ := ih run
      exact ⟨_, .reverted first swept, congrArg (ref :: ·) same, rfl⟩
    | error error =>
      obtain ⟨name, _, named, run⟩ := bind_eq_done run
      cases named
      obtain ⟨_, logged, noted, run⟩ := bind_eq_done run
      cases noted
      obtain ⟨others, final, rested, run⟩ := bind_eq_done run
      cases run
      obtain ⟨pass, swept, same, rfl⟩ := ih rested
      exact ⟨_, .reverted first (.noted rfl swept), congrArg (ref :: ·) same, rfl⟩

end

/-- Two passes agree: they leave every change in the same state and make the same calls, none of them
twice, and both return an error for just those of their changes that are left in bad state. -/
structure Agree (pass other : List Reversion) (after after' : World) : Prop where
  changes : ∀ ref, after.change ref = after'.change ref
  calls : ∀ ref, callsIn ref pass = callsIn ref other
  once : ∀ ref, (callsIn ref pass).length ≤ 1
  failed : ∀ ref, FailsIn ref pass ↔ ref ∈ refsOf pass ∧ (after.change ref).badState = true
  failed' : ∀ ref, FailsIn ref other ↔ ref ∈ refsOf other ∧ (after'.change ref).badState = true

/-- Two passes over the same changes, in whatever order and with whatever repetitions, where no revert
function panics or meddles with another one: both come to their end, and they agree. -/
theorem sweeps_agree {world : World} {first second : List (Ref Change)}
    (returns : ∀ ref ∈ first, (world.change ref).RevertReturns) (apart : Apart first world)
    (same : ∀ ref, ref ∈ second ↔ ref ∈ first) :
    (∀ refs, refs = first ∨ refs = second → ∀ area heading, ∃ pass after,
      revertEach area heading refs world = (.done (pass.filterMap Reversion.error?), after) ∧
        Swept world pass after ∧ refsOf pass = refs) ∧
    ∀ pass other after after', Swept world pass after → refsOf pass = first →
      Swept world other after' → refsOf other = second → Agree pass other after after' := by
  refine ⟨?_, ?_⟩
  · intro refs either area heading
    have gentle : ∀ ref ∈ refs, (world.change ref).RevertReturns := by
      rcases either with rfl | rfl
      · exact returns
      · exact fun ref member => returns ref ((same ref).mp member)
    obtain ⟨failures, after, run⟩ := revertEach_returns area heading gentle
    obtain ⟨pass, swept, refs, rfl⟩ := revertEach_swept run
    exact ⟨pass, after, run, swept, refs⟩
  · rintro pass other after after' swept rfl swept' rfl
    have comes (ref : Ref Change) (member : ref ∈ refsOf pass) :=
      swept.of_mem apart (List.Subset.refl _) member
    have comes' (ref : Ref Change) (member : ref ∈ refsOf pass) :=
      swept'.of_mem apart (fun ref => (same ref).mp) ((same ref).mpr member)
    have agrees (ref : Ref Change) : after.change ref = after'.change ref ∧
        callsIn ref pass = callsIn ref other ∧ (callsIn ref pass).length ≤ 1 := by
      by_cases member : ref ∈ refsOf pass
      · rw [(comes ref member).1, (comes ref member).2, (comes' ref member).1,
          (comes' ref member).2]
        exact ⟨rfl, rfl, call?_length_le ref world⟩
      · obtain ⟨kept, none⟩ := swept.of_not_mem member
        obtain ⟨kept', none'⟩ := swept'.of_not_mem fun found => member ((same ref).mp found)
        rw [kept, none, kept', none']
        exact ⟨rfl, rfl, Nat.zero_le 1⟩
    exact ⟨fun ref => (agrees ref).1, fun ref => (agrees ref).2.1, fun ref => (agrees ref).2.2,
      fun _ => swept.failsIn_iff, fun _ => swept'.failsIn_iff⟩

section

variable {refs : List (Ref Change)} {ref : Ref Change} {world after : World}
  {pass : List Reversion}

theorem revertedBy_notes (change : Change) (call? : Option Call) :
    (change.revertedBy call?).2.reverter.all RevertFunction.notes =
      change.reverter.all RevertFunction.notes := by
  have called (function : RevertFunction) : function.called.notes = function.notes := by
    cases function <;> rfl
  have kept : (change.reverter.map RevertFunction.called).all RevertFunction.notes =
      change.reverter.all RevertFunction.notes := by
    cases change.reverter <;> simp [called]
  unfold revertedBy
  split
  · split <;> exact kept
  · split
    · rfl
    · split <;> rfl

theorem Swept.notes (swept : Swept world pass after) (ref : Ref Change) :
    (after.change ref).reverter.all RevertFunction.notes =
      (world.change ref).reverter.all RevertFunction.notes := by
  induction swept with
  | nothing world => rfl
  | noted quiet later ih => exact ih
  | @reverted world middle after own answer pass run later ih =>
    rw [ih]
    by_cases same : ref = own
    · subst same
      have decided := congrArg Prod.snd (revert_eq ref world)
      rw [run] at decided
      dsimp only at decided
      rw [decided, revertedBy_notes]
    · rw [revert_others run same]

/-- Scripted functions do not meddle with each other. -/
theorem apart_of_notes
    (notes : ∀ ref ∈ refs, (world.change ref).reverter.all RevertFunction.notes = true) :
    Apart refs world := by
  intro pass middle swept _ ref _ other member different answer after run
  have scripted := (swept.notes other).trans (notes other member)
  refine call?_congr (revert_others run different) fun target function own => ?_
  rw [own] at scripted
  cases function with
  | scripted replies => rw [callRevert_scripted, callRevert_scripted]
  | removeFile => cases scripted
  | restorePermissions noted => cases scripted

end

/-- Six changes: one that was never applied, one that is live, one that is live and cannot be undone,
one that was reverted, one whose apply failed, and one that is live and was loaded without its
functions. -/
def mixedWorld : World :=
  let change (name : String) (reply : Reply) : Change :=
    { name, description := "d", applier := some (.scripted []), reverter := some (.scripted [reply]) }
  { changes := ⟨6, [
      (0, change "fresh" (.value .null)),
      (1, (change "live" (.value .null)).afterApply .null),
      (2, (change "stuck" (.failure ["locked"])).afterApply .null),
      (3, ((change "undone" (.value .null)).afterApply .null).afterRevert),
      (4, (change "inert" (.value .null)).spoiled (.applyFailed "inert" "refused")),
      (5, { name := "loaded", description := "d", applied := true })]⟩ }

/-- Whichever way the six are reverted, one of them twice or not, three are in bad state then, and the
functions of two were called. -/
theorem sweeps_agree_mixed :
    ∃ pass other after after',
      revertEach .ledger "h" ([0, 1, 2, 3, 4, 5].map Ref.mk) mixedWorld =
          (.done (pass.filterMap Reversion.error?), after) ∧
        revertEach .strike "h" ([5, 2, 1, 1, 4, 0, 3, 2, 5].map Ref.mk) mixedWorld =
          (.done (other.filterMap Reversion.error?), after') ∧
        Agree pass other after after' ∧
        [0, 1, 2, 3, 4, 5].map (fun i => (after.change ⟨i⟩).badState) =
          [false, false, true, false, true, true] ∧
        ∀ i ∈ [0, 1, 2, 3, 4, 5], (callsIn ⟨i⟩ pass).length = if i = 1 ∨ i = 2 then 1 else 0 := by
  have scripted : ∀ ref ∈ ([0, 1, 2, 3, 4, 5].map Ref.mk : List (Ref Change)),
      (mixedWorld.change ref).reverter.all RevertFunction.notes = true := by decide
  have returns : ∀ ref ∈ ([0, 1, 2, 3, 4, 5].map Ref.mk : List (Ref Change)),
      (mixedWorld.change ref).RevertReturns := by decide
  have same : ∀ ref : Ref Change, ref ∈ [5, 2, 1, 1, 4, 0, 3, 2, 5].map Ref.mk ↔
      ref ∈ [0, 1, 2, 3, 4, 5].map Ref.mk := by
    intro ref
    simp only [List.mem_map, List.mem_cons, List.not_mem_nil, or_false]
    grind
  have apart := apart_of_notes scripted
  obtain ⟨ends, agree⟩ := sweeps_agree returns apart same
  obtain ⟨pass, after, run, swept, refs⟩ := ends _ (.inl rfl) .ledger "h"
  obtain ⟨other, after', run', swept', refs'⟩ := ends _ (.inr rfl) .strike "h"
  refine ⟨pass, other, after, after', run, run', agree _ _ _ _ swept refs swept' refs', ?_, ?_⟩
  · obtain rfl := congrArg Prod.snd run
    decide +kernel
  · have once : ∀ i ∈ [0, 1, 2, 3, 4, 5],
        (Operation.revert.call? ⟨i⟩ mixedWorld).toList.length = if i = 1 ∨ i = 2 then 1 else 0 := by
      decide +kernel
    intro i member
    have among : (⟨i⟩ : Ref Change) ∈ refsOf pass := refs ▸ List.mem_map_of_mem member
    rw [(swept.of_mem apart (refs ▸ List.Subset.refl _) among).2, once i member]

end Change

end Raid
