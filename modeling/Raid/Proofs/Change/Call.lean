import Raid.Change.Transition
import Raid.Proofs.Files.Tree
import Raid.Proofs.Footprint

/-!
What a call of one of a change's functions can do. Whatever it answers, it leaves all but the files,
the journal and the functions of its own change alone; it does not end the process, and only
a function that was written to panic does.
-/

namespace Raid

def Event.isCall : Event → Bool
  | .applyCalled .. => true
  | .revertCalled .. => true
  | _ => false

def Reply.panics : Reply → Bool
  | .panic _ => true
  | _ => false

def RevertFunction.Returns : RevertFunction → Prop
  | .scripted replies => ∀ reply ∈ replies, reply.panics = false
  | .removeFile => True
  | .restorePermissions _ => True

instance : DecidablePred RevertFunction.Returns
  | .scripted replies => inferInstanceAs (Decidable (∀ reply ∈ replies, reply.panics = false))
  | .removeFile => .isTrue trivial
  | .restorePermissions _ => .isTrue trivial

namespace Change

def RevertReturns (change : Change) : Prop :=
  ∀ function, change.reverter = some function → function.Returns

instance : DecidablePred RevertReturns := fun change =>
  decidable_of_iff (∀ function ∈ change.reverter, function.Returns) Iff.rfl

theorem lacks?_eq_none {change : Change} :
    change.lacks? = none ↔ change.name.isEmpty = false ∧ change.description.isEmpty = false ∧
      change.applier.isSome = true ∧ change.reverter.isSome = true := by
  unfold lacks?
  cases change.name.isEmpty <;> cases change.description.isEmpty <;>
    cases change.applier <;> cases change.reverter <;> simp

end Change

namespace World

open Change

/-- The world without its changes, the entries of its files and its journal: what applying and
reverting a change leave alone. -/
def surroundings (world : World) : World :=
  { world with changes := {}, files := world.files.ground, journal := [] }

theorem ledger_of_surroundings {before after : World}
    (same : after.surroundings = before.surroundings) (ledger : Ref Ledger) :
    after.ledger ledger = before.ledger ledger := by
  change after.surroundings.ledger ledger = before.surroundings.ledger ledger
  rw [same]

def withChange (world : World) (ref : Ref Change) (change : Change) : World :=
  { world with changes := world.changes.set ref change }

@[simp] theorem change_withChange_self (world : World) (ref : Ref Change) (change : Change) :
    (world.withChange ref change).change ref = change :=
  Table.get_set_self world.changes ref change

theorem change_withChange_of_ne (world : World) {ref other : Ref Change} (change : Change)
    (different : other ≠ ref) : (world.withChange ref change).change other = world.change other :=
  Table.get_set_of_ne world.changes change different

section

variable {property : Change → Prop} {world : World} (all : ∀ ref, property (world.change ref))

include all

theorem forall_withChange {ref : Ref Change} {change : Change} (own : property change) :
    ∀ other, property ((world.withChange ref change).change other) := by
  intro other
  by_cases same : other = ref
  · rwa [same, change_withChange_self]
  · rw [change_withChange_of_ne world change same]
    exact all other

/-- What holds of all changes still does when such a change is made. -/
theorem forall_newChange {change : Change} (own : property change) :
    ∀ ref, property ((Task.newChange change world).2.change ref) := by
  intro ref
  by_cases same : ref.index = world.changes.size
  · have made : (Task.newChange change world).2.change ref = change := by
      cases ref
      cases same
      exact Table.get_add_self world.changes change
    rwa [made]
  · have kept : (Task.newChange change world).2.change ref = world.change ref :=
      Table.get_add_of_ne world.changes change same
    rw [kept]
    exact all ref

end

@[simp] theorem journal_withChange (world : World) (ref : Ref Change) (change : Change) :
    (world.withChange ref change).journal = world.journal := rfl

/-- A function of the change was called: nothing but the files, the journal and the functions of
the change may be different, no function is lost, and a revert function that returns is not replaced
by one that panics. -/
structure Called (ref : Ref Change) (before after : World) : Prop where
  surroundings : after.surroundings = before.surroundings
  others : ∀ other, other ≠ ref → after.change other = before.change other
  own : ∃ applier reverter, after.change ref = { before.change ref with applier, reverter }
  whole : (before.change ref).lacks? = none → (after.change ref).lacks? = none
  returns : (before.change ref).RevertReturns → (after.change ref).RevertReturns

section

variable {ref : Ref Change} {before after : World} (called : Called ref before after)

include called

theorem Called.name : (after.change ref).name = (before.change ref).name := by
  obtain ⟨applier, reverter, same⟩ := called.own
  rw [same]

theorem Called.badState : (after.change ref).badState = (before.change ref).badState := by
  obtain ⟨applier, reverter, same⟩ := called.own
  rw [same]

theorem Called.live : (after.change ref).live = (before.change ref).live := by
  obtain ⟨applier, reverter, same⟩ := called.own
  rw [same]
  rfl

theorem Called.targetOrNull :
    (after.change ref).targetOrNull = (before.change ref).targetOrNull := by
  obtain ⟨applier, reverter, same⟩ := called.own
  rw [same]
  rfl

end

theorem Called.of_files (ref : Ref Change) (world : World) {files : FileTree}
    (same : files.ground = world.files.ground) :
    Called ref world { world with files := files } where
  surroundings := by simp only [World.surroundings, same]
  others _ _ := rfl
  own := ⟨(world.change ref).applier, (world.change ref).reverter, rfl⟩
  whole := id
  returns := id

theorem Called.trans {ref : Ref Change} {first second third : World}
    (begun : Called ref first second) (ended : Called ref second third) :
    Called ref first third := by
  refine ⟨ended.surroundings.trans begun.surroundings, ?_, ?_, ended.whole ∘ begun.whole,
    ended.returns ∘ begun.returns⟩
  · intro other different
    rw [ended.others other different, begun.others other different]
  · obtain ⟨applier, reverter, own⟩ := begun.own
    obtain ⟨applier', reverter', own'⟩ := ended.own
    exact ⟨applier', reverter', by rw [own', own]⟩

/-- What holds of all changes still does after a call, when it holds of the change that was called. -/
theorem Called.forall_change {ref : Ref Change} {before after : World}
    (called : Called ref before after) {property : Change → Prop}
    (all : ∀ other, property (before.change other)) (own : property (after.change ref)) :
    ∀ other, property (after.change other) := by
  intro other
  by_cases same : other = ref
  · rwa [same]
  · rw [called.others other same]
    exact all other

theorem Called.of_functions (ref : Ref Change) (world : World) (applier : Option ApplyFunction)
    (reverter : Option RevertFunction)
    (applies : (world.change ref).applier.isSome → applier.isSome)
    (reverts : (world.change ref).reverter.isSome → reverter.isSome)
    (returns : (world.change ref).RevertReturns →
      ∀ function, reverter = some function → function.Returns) :
    Called ref world (world.withChange ref { world.change ref with applier, reverter }) := by
  refine ⟨rfl, ?_, ⟨applier, reverter, change_withChange_self world ref _⟩, ?_, ?_⟩
  · intro other different
    exact change_withChange_of_ne world _ different
  · intro whole
    obtain ⟨named, described, applier', reverter'⟩ := lacks?_eq_none.mp whole
    rw [change_withChange_self]
    exact lacks?_eq_none.mpr ⟨named, described, applies applier', reverts reverter'⟩
  · intro gentle
    rw [change_withChange_self]
    exact returns gentle

theorem Called.of_journal (ref : Ref Change) (world : World) (journal : List Event) :
    Called ref world { world with journal := journal } :=
  ⟨rfl, fun _ _ => rfl, ⟨(world.change ref).applier, (world.change ref).reverter, rfl⟩, id, id⟩

end World

def Reply.made (targetName : String) (input : Json) : Reply → Outcome (Except String Json)
  | .value found => .done (.ok found)
  | .echo => .done (.ok (.object [("input", input), ("target", .text targetName)]))
  | .failure causes => .done (.error (Change.reasonText causes))
  | .panic payload => .panicked payload

def Reply.undone : Reply → Outcome (Except String Unit)
  | .value _ => .done (.ok ())
  | .echo => .done (.ok ())
  | .failure causes => .done (.error (Change.reasonText causes))
  | .panic payload => .panicked payload

namespace Change

open World

theorem callApply_scripted (ref : Ref Change) (targetName : String) (input : Json)
    (replies : List Reply) (world : World) :
    callApply ref targetName input (.scripted replies) world =
      ((nextReply replies).1.made targetName input,
        { world with
          journal := world.journal ++ [Event.applyCalled (world.change ref).name targetName input]
        }.withChange ref
          { world.change ref with applier := some (.scripted (nextReply replies).2) }) := by
  simp only [callApply, Act.bind_apply, Act.read_apply, Task.emit, Act.change_apply,
    Task.setChange]
  cases (nextReply replies).1 <;> rfl

theorem callRevert_scripted (ref : Ref Change) (target : Json) (replies : List Reply)
    (world : World) :
    callRevert ref target (.scripted replies) world =
      ((nextReply replies).1.undone,
        { world with
          journal := world.journal ++ [Event.revertCalled (world.change ref).name target]
        }.withChange ref
          { world.change ref with reverter := some (.scripted (nextReply replies).2) }) := by
  simp only [callRevert, Act.bind_apply, Act.read_apply, Task.emit, Act.change_apply,
    Task.setChange]
  cases (nextReply replies).1 <;> rfl

theorem nextReply_returns {replies : List Reply} (returns : ∀ reply ∈ replies, reply.panics = false) :
    (nextReply replies).1.panics = false ∧
      ∀ reply ∈ (nextReply replies).2, reply.panics = false := by
  match replies with
  | [] => exact ⟨rfl, returns⟩
  | [last] => exact ⟨returns last (by simp), returns⟩
  | reply :: second :: rest =>
    exact ⟨returns reply (by simp), fun other member => returns other (List.mem_cons_of_mem _ member)⟩

theorem markReadonlyIn_done (input : Json) (world : World) :
    ∃ answer files, markReadonlyIn input world = (.done answer, { world with files := files }) ∧
      files.ground = world.files.ground ∧
      ∀ target revert, answer = .ok (target, revert) → revert.Returns := by
  unfold markReadonlyIn
  split
  · exact ⟨_, world.files, rfl, rfl, by simp⟩
  · split
    · exact ⟨_, world.files, rfl, rfl, by simp⟩
    · split
      · exact ⟨_, world.files, rfl, rfl, by simp⟩
      · rename_i files marked
        refine ⟨_, files, rfl, FileTree.ground_setPermissions marked, ?_⟩
        rintro target revert ⟨⟩
        trivial

theorem callApply_called (ref : Ref Change) (targetName : String) (input : Json)
    (function : ApplyFunction) (world : World) :
    Called ref world (callApply ref targetName input function world).2 := by
  cases function with
  | scripted replies =>
    rw [callApply_scripted]
    exact (Called.of_journal ref world _).trans
      (.of_functions ref _ _ _ (fun _ => rfl) id id)
  | writeFile name content =>
    simp only [callApply, writeFileIn]
    split
    · exact .of_files ref world rfl
    · split
      · exact .of_files ref world rfl
      · rename_i written
        exact .of_files ref world (FileTree.ground_write written)
  | markReadonly =>
    obtain ⟨answer, files, marked, same, returns⟩ := markReadonlyIn_done input world
    simp only [callApply, Act.bind_apply, marked]
    cases answer with
    | error reason => exact .of_files ref world same
    | ok found =>
      obtain ⟨target, revert⟩ := found
      refine (Called.of_files ref world same).trans
        (.of_functions ref _ _ (some revert) id (fun _ => rfl) ?_)
      rintro - function ⟨⟩
      exact returns target _ rfl

theorem callApply_not_ended (ref : Ref Change) (targetName : String) (input : Json)
    (function : ApplyFunction) (world : World) (ending : Ending) :
    (callApply ref targetName input function world).1 ≠ .ended ending := by
  cases function with
  | scripted replies =>
    rw [callApply_scripted]
    cases (nextReply replies).1 <;> simp [Reply.made]
  | writeFile name content =>
    simp only [callApply, writeFileIn]
    split
    · simp
    · split <;> simp
  | markReadonly =>
    obtain ⟨answer, files, marked, -, -⟩ := markReadonlyIn_done input world
    simp only [callApply, Act.bind_apply, marked]
    cases answer <;> simp [Act.pure_apply, Act.read_apply, Act.bind_apply, Task.setChange,
      Act.change_apply]

theorem removeFileOf_done (target : Json) (world : World) :
    ∃ answer files, removeFileOf target world = (.done answer, { world with files := files }) ∧
      files.ground = world.files.ground := by
  unfold removeFileOf
  split
  · exact ⟨_, world.files, rfl, rfl⟩
  · split
    · exact ⟨_, world.files, rfl, rfl⟩
    · rename_i removed
      exact ⟨_, _, rfl, FileTree.ground_removeFile removed⟩

theorem restorePermissionsOf_done (noted : Option Permissions) (target : Json) (world : World) :
    ∃ answer files,
      restorePermissionsOf noted target world = (.done answer, { world with files := files }) ∧
        files.ground = world.files.ground := by
  unfold restorePermissionsOf
  split
  · exact ⟨_, world.files, rfl, rfl⟩
  · exact ⟨_, world.files, rfl, rfl⟩
  · split
    · exact ⟨_, world.files, rfl, rfl⟩
    · rename_i set
      exact ⟨_, _, rfl, FileTree.ground_setPermissions set⟩

theorem callRevert_restorePermissions (ref : Ref Change) (target : Json) (noted : Option Permissions)
    (world : World) :
    ∃ answer files, callRevert ref target (.restorePermissions noted) world =
      (.done answer, { world.withChange ref
        { world.change ref with reverter := some (.restorePermissions none) } with files := files }) ∧
      files.ground = world.files.ground :=
  restorePermissionsOf_done noted target (world.withChange ref
    { world.change ref with reverter := some (.restorePermissions none) })

theorem callRevert_called (ref : Ref Change) (target : Json) (function : RevertFunction)
    (world : World) (own : (world.change ref).reverter = some function) :
    Called ref world (callRevert ref target function world).2 := by
  cases function with
  | scripted replies =>
    rw [callRevert_scripted]
    refine (Called.of_journal ref world _).trans
      (.of_functions ref _ _ _ id (fun _ => rfl) ?_)
    rintro gentle function ⟨⟩
    exact (nextReply_returns (gentle _ own)).2
  | removeFile =>
    obtain ⟨answer, files, removed, same⟩ := removeFileOf_done target world
    rw [callRevert, removed]
    exact .of_files ref world same
  | restorePermissions noted =>
    obtain ⟨answer, files, restored, same⟩ := callRevert_restorePermissions ref target noted world
    rw [restored]
    refine (Called.of_functions ref world (world.change ref).applier
      (some (.restorePermissions none)) id (fun _ => rfl) ?_).trans (.of_files ref _ same)
    rintro - function ⟨⟩
    trivial

theorem callRevert_done (ref : Ref Change) (target : Json) (function : RevertFunction)
    (world : World) (returns : function.Returns) :
    ∃ answer, (callRevert ref target function world).1 = .done answer := by
  cases function with
  | scripted replies =>
    rw [callRevert_scripted]
    have gentle := (nextReply_returns returns).1
    cases reply : (nextReply replies).1 with
    | value found => exact ⟨_, rfl⟩
    | echo => exact ⟨_, rfl⟩
    | failure causes => exact ⟨_, rfl⟩
    | panic payload => simp [reply, Reply.panics] at gentle
  | removeFile =>
    obtain ⟨answer, files, removed, -⟩ := removeFileOf_done target world
    exact ⟨answer, by rw [callRevert, removed]⟩
  | restorePermissions noted =>
    obtain ⟨answer, files, restored, -⟩ := callRevert_restorePermissions ref target noted world
    exact ⟨answer, by rw [restored]⟩

theorem callRevert_not_ended (ref : Ref Change) (target : Json) (function : RevertFunction)
    (world : World) (ending : Ending) :
    (callRevert ref target function world).1 ≠ .ended ending := by
  cases function with
  | scripted replies =>
    rw [callRevert_scripted]
    cases (nextReply replies).1 <;> simp [Reply.undone]
  | removeFile =>
    obtain ⟨answer, done⟩ := callRevert_done ref target .removeFile world trivial
    simp [done]
  | restorePermissions noted =>
    obtain ⟨answer, done⟩ := callRevert_done ref target (.restorePermissions noted) world trivial
    simp [done]

end Change

end Raid
