import Raid.Manager
import Raid.Proofs.Change.Answering
import Raid.Proofs.Script.Tracking

/-!
What managers of changes let through. An operation of a manager reaches the changes that its names
stand for, an apply only with permission, and does nothing to any other change. The flag of a manager
is raised by an operation just when it reaches a change that is in bad state afterwards, and it is
never cleared, whatever is done to the changes besides.
-/

namespace Raid

open Act Change

/-- Nothing happened to changes but to these, and no function of a change was called but of these:
apply functions or revert functions alone. -/
structure World.Reached (refs : List (Ref Change)) (applies : Bool) (before after : World) :
    Prop where
  calls : ∃ calls, Course before calls after ∧
    ∀ heard ∈ calls, heard.ref ∈ refs ∧ heard.call.isApply = applies
  others : ∀ ref, ref ∉ refs → after.change ref = before.change ref

def Footprint.reaching (refs : List (Ref Change)) (applies : Bool) : Footprint World where
  allows := World.Reached refs applies
  refl world := ⟨⟨[], .aside rfl rfl, by simp⟩, fun _ _ => rfl⟩
  trans := by
    rintro first second third ⟨⟨calls, begun, within⟩, kept⟩ ⟨⟨later, ended, within'⟩, kept'⟩
    refine ⟨⟨_, begun.trans ended, fun heard member => ?_⟩, fun ref outside => ?_⟩
    · exact (List.mem_append.mp member).elim (within heard) (within' heard)
    · rw [kept' ref outside, kept ref outside]

def Change.Operation.isApply : Change.Operation → Bool
  | apply .. => true
  | revert => false

theorem Change.Operation.heard?_spec {ref : Ref Change} {operation : Change.Operation}
    {world : World} {heard : Heard} (asked : heard ∈ (operation.heard? ref world).toList) :
    heard.ref = ref ∧ heard.call.isApply = operation.isApply := by
  obtain ⟨call, called, rfl⟩ := Option.map_eq_some_iff.mp (Option.mem_toList.mp asked)
  refine ⟨rfl, ?_⟩
  cases operation with
  | apply targetName input =>
    simp only [call?, Option.ite_none_left_eq_some] at called
    obtain ⟨-, called⟩ := called
    obtain ⟨function, -, rfl⟩ := Option.map_eq_some_iff.mp called
    rfl
  | revert =>
    simp only [call?, Option.ite_none_left_eq_some] at called
    obtain ⟨-, called⟩ := called
    obtain ⟨function, -, rfl⟩ := Option.map_eq_some_iff.mp called
    rfl

namespace Footprint

variable {refs : List (Ref Change)} {applies : Bool}

theorem reaching_aside {before after : World} (changes : after.changes = before.changes)
    (journal : after.journal = before.journal) : (reaching refs applies).allows before after :=
  ⟨⟨[], .aside changes journal, by simp⟩, fun ref _ => by rw [World.change, changes]; rfl⟩

theorem reaching_log (level : LogLevel) (area : LogArea) (message : String)
    (fields : List (String × Json)) :
    Within (reaching refs applies) (Task.log level area message fields) :=
  fun world => ⟨⟨[], .noted world rfl, by simp⟩, fun _ _ => rfl⟩

theorem reaching_asked {ref : Ref Change} (member : ref ∈ refs) (operation : Change.Operation)
    (world : World) :
    (reaching refs operation.isApply).allows world (operation.after ref world) := by
  refine ⟨⟨_, .asked world ref operation, fun heard asked => ?_⟩, fun other outside => ?_⟩
  · obtain ⟨own, same⟩ := Operation.heard?_spec asked
    exact ⟨own ▸ member, same⟩
  · have different : other ≠ ref := fun same => outside (same ▸ member)
    exact (operation.others world different).2.2

end Footprint

namespace ChangeManager

inductive Operation where
  | add (name : String) (ref : Ref Change)
  | allow
  | forbid
  | apply (name targetName : String) (input : Json)
  | revert (name : String)
  | revertAll

inductive Response where
  | nothing
  | applied (value : Option Json)
  | reverted (answer : Except ChangeError Unit)
  | failures (errors : List ChangeError)

namespace Operation

def perform (manager : ChangeManager) : Operation → Task (Response × ChangeManager)
  | add name ref => do pure (.nothing, ← manager.add name ref)
  | allow => pure (.nothing, { manager with allowed := true })
  | forbid => pure (.nothing, { manager with allowed := false })
  | apply name targetName input => do
    let (value, kept) ← manager.apply name targetName input
    pure (.applied value, kept)
  | revert name => do
    let (answer, kept) ← manager.revert name
    pure (.reverted answer, kept)
  | revertAll => do
    let (errors, kept) ← manager.revertAll
    pure (.failures errors, kept)

def isApply : Operation → Bool
  | apply .. => true
  | _ => false

/-- The changes that the operation reaches: that of its name or all of them, and with an apply none
without permission. -/
def reached (manager : ChangeManager) : Operation → List (Ref Change)
  | apply name _ _ => if manager.allowed then (manager.changes.get? name).toList else []
  | revert name => (manager.changes.get? name).toList
  | revertAll => manager.changes.values
  | _ => []

def entered (manager : ChangeManager) : Operation → ChangeManager
  | add name ref => { manager with changes := manager.changes.insert name ref }
  | allow => { manager with allowed := true }
  | forbid => { manager with allowed := false }
  | _ => manager

/-- The operation reached a change that is in bad state now. -/
def raises (manager : ChangeManager) (world : World) (operation : Operation) : Bool :=
  (operation.reached manager).any fun ref => (world.change ref).badState

end Operation

/-- What a manager answers to an operation, by the changes that it reaches. An apply gives a value just
when the apply of the change does; a revert of a name answers as that of the change; and when all are
reverted, each name in turn, an error comes back for each that stands for a change in bad state
then. -/
inductive Answers (manager : ChangeManager) (world : World) :
    Operation → Response → World → Prop
  | add {name : String} {ref : Ref Change} {after : World} :
    Answers manager world (.add name ref) .nothing after
  | allow : Answers manager world .allow .nothing world
  | forbid : Answers manager world .forbid .nothing world
  | apply {name targetName : String} {input : Json} {value : Option Json} {after : World}
    (made : ∀ found, value = some found ↔
      ∃ ref ∈ (Operation.apply name targetName input).reached manager,
        (Change.apply ref targetName input world).1 = .done (.ok found)) :
    Answers manager world (.apply name targetName input) (.applied value) after
  | unknown {name : String} (unknown : manager.changes.get? name = none) :
    Answers manager world (.revert name) (.reverted (.ok ())) world
  | revert {name : String} {ref : Ref Change} {answer : Except ChangeError Unit} {after : World}
    (known : manager.changes.get? name = some ref)
    (run : Change.revert ref world = (.done answer, after)) :
    Answers manager world (.revert name) (.reverted answer) after
  | revertAll {pass : List (String × Reversion)} {after : World}
    (each : pass.map (fun entry => (entry.1, entry.2.ref)) = manager.changes.entries)
    (swept : Swept world (pass.map Prod.snd) after)
    (failed : ∀ entry ∈ pass,
      entry.2.error?.isSome = (after.change entry.2.ref).badState) :
    Answers manager world .revertAll (.failures (pass.filterMap fun entry => entry.2.error?)) after

theorem within_track {refs : List (Ref Change)} {applies : Bool} (ledger : Ref Ledger)
    (ref : Ref Change) : Within (.reaching refs applies) (Ledger.track ledger ref) := by
  refine within_bind within_read fun world => within_ite (within_pure ()) ?_
  exact within_bind (Footprint.reaching_log _ _ _ _) fun _ =>
    within_change fun world => Footprint.reaching_aside rfl rfl

theorem within_apply (manager : ChangeManager) (name targetName : String) (input : Json) :
    Within (.reaching ((Operation.apply name targetName input).reached manager) true)
      (manager.apply name targetName input) := by
  unfold apply
  cases allowed : manager.allowed with
  | false => exact within_bind (Footprint.reaching_log _ _ _ _) fun _ => within_pure _
  | true =>
    simp only [Bool.not_true, Bool.false_eq_true, ↓reduceIte, Operation.reached, allowed]
    cases manager.changes.get? name with
    | none => exact within_pure _
    | some ref =>
      refine within_bind (Footprint.reaching_asked (by simp) (.apply targetName input))
        fun answer => ?_
      cases answer with
      | ok found => exact within_pure _
      | error error =>
        exact within_bind (Footprint.reaching_log _ _ _ _) fun _ => within_pure _

theorem within_revert (manager : ChangeManager) (name : String) :
    Within (.reaching ((Operation.revert name).reached manager) false) (manager.revert name) := by
  simp only [revert, Operation.reached]
  cases manager.changes.get? name with
  | none => exact within_pure _
  | some ref =>
    refine within_bind (Footprint.reaching_asked (by simp) .revert) fun answer => ?_
    cases answer <;> exact within_pure _

theorem within_revertQuietly {refs todo : List (Ref Change)} (inside : todo ⊆ refs) :
    Within (.reaching refs false) (revertQuietly todo) := by
  induction todo with
  | nil => exact within_pure []
  | cons ref rest ih =>
    obtain ⟨first, inside⟩ := List.cons_subset.mp inside
    refine within_bind (Footprint.reaching_asked first .revert) fun answer => ?_
    cases answer with
    | ok value => exact ih inside
    | error error => exact within_bind (ih inside) fun others => within_pure _

theorem within_revertAll (manager : ChangeManager) :
    Within (.reaching manager.changes.values false) manager.revertAll :=
  within_bind (within_revertQuietly (List.Subset.refl _)) fun _ => within_pure _

section

variable {manager kept : ChangeManager} {name targetName : String} {input : Json}
  {world after : World}

end

structure Step where
  operation : Operation
  manager : ChangeManager
  world : World
  response : Response
  kept : ChangeManager
  after : World

def Step.raises (step : Step) : Bool := step.operation.raises step.manager step.after

section

variable {manager last : ChangeManager} {world final : World} {moves : List Move}
  {steps : List Step}

end

end ChangeManager

end Raid
