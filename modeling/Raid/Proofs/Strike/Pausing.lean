import Raid.Proofs.Script.Pausing

/-!
The points between two actions of the body of a strike, be it a script or a built-in check. A check runs
one movement that looks, and then maybe one that makes a change; within that one the points are where
its change is made, registered and applied.
-/

namespace Raid

open Act

def StrikeScript.fresh (script : StrikeScript) (context : StrikeContext) : StrikeResult :=
  Script.decorate
    (if script.standalone then .standalone script.description
      else context.strikeResult script.description)
    script.controlId script.docsUrl script.preset

def StrikeScript.begun (name : String) (context : StrikeContext) (world : World) : World :=
  { world with journal := world.journal ++
      [.strikeStarted name context.service context.invasive context.vars] }

namespace StrikeResult

theorem mem_changes_record {report : StrikeReport (Ref Change)} {name : String}
    {movement : MovementReport (Ref Change)} {ref : Ref Change}
    (member : ref ∈ (report.record name movement).changes) :
    ref ∈ report.changes ∨ ref ∈ movement.changes.values := by
  obtain ⟨found, known, member⟩ := List.mem_flatMap.mp member
  obtain ⟨key, known⟩ := Dict.mem_values.mp known
  simp only [StrikeReport.record, Dict.get?_insert] at known
  split at known
  · cases known
    exact .inr member
  · exact .inl (List.mem_flatMap.mpr ⟨found, Dict.mem_values.mpr ⟨key, known⟩, member⟩)

theorem mem_changes_record_self {report : StrikeReport (Ref Change)} {name : String}
    {movement : MovementReport (Ref Change)} {ref : Ref Change}
    (member : ref ∈ movement.changes.values) : ref ∈ (report.record name movement).changes :=
  List.mem_flatMap.mpr
    ⟨movement, Dict.mem_values.mpr ⟨name, Dict.get?_insert_self _ name movement⟩, member⟩

/-- A result that its ledger backs has all its changes registered there, after a movement as
before. -/
theorem executeMovement_tracked {result after : StrikeResult} {name : String} {own : Ref Ledger}
    {movement : Task (MovementReport (Ref Change))} {world later : World}
    (backed : result.ledger = some own) (inside : own.index < world.ledgers.size)
    (moves : Within (.tracking own) movement)
    (known : ∀ ref ∈ result.report.changes, ref ∈ (world.ledger own).changes)
    (run : result.executeMovement name movement world = (.done after, later)) :
    after.ledger = some own ∧ ∀ ref ∈ after.report.changes, ref ∈ (later.ledger own).changes := by
  obtain ⟨report, middle, moved, rfl, tracks⟩ := executeMovement_done run
  obtain ⟨tracked, returned⟩ := tracks own
  have begun := moves.of_run moved
  refine ⟨backed, fun ref member => ?_⟩
  rcases mem_changes_record member with earlier | own
  · exact tracked.kept (Nat.lt_of_lt_of_le inside begun.size) ref
      (begun.kept inside ref (known ref earlier))
  · exact returned backed ref own

end StrikeResult

namespace Probe

inductive Pauses (context : StrikeContext) (directory : String) (probe : Probe) (ref : Ref Change)
    (world : World) : Pause DirectoryCheck.Movement → Prop
  | made : Pauses context directory probe ref world
    ⟨world, [], probe.attempt context directory ref⟩
  | added {manager : ChangeManager} {middle : World}
    (add : context.changeManager.add probe.changeName ref world = (.done manager, middle)) :
    Pauses context directory probe ref world
      ⟨middle, [ref], probe.apply context directory manager⟩
  | applied {manager kept : ChangeManager} {middle later : World} {answer : Option Json}
    (add : context.changeManager.add probe.changeName ref world = (.done manager, middle))
    (applied : manager.apply probe.changeName context.service (.object [("dir", .text directory)])
      middle = (.done (answer, kept), later)) :
    Pauses context directory probe ref world
      ⟨later, [ref], probe.conclude context directory answer kept⟩

theorem movement_eq {context : StrikeContext} {world : World} {directory : String} (probe : Probe)
    (there : DirectoryCheck.existingTarget world.files context = .ok directory) :
    probe.movement context world =
      (probe.make context >>= probe.attempt context directory) world := by
  simp only [movement, bind_apply, read_apply, there]

namespace Pauses

variable {context : StrikeContext} {directory : String} {probe : Probe} {ref : Ref Change}
  {world : World} {pause : Pause DirectoryCheck.Movement}
  (paused : probe.Pauses context directory ref world pause)

include paused

theorem resume : probe.attempt context directory ref world = pause.rest pause.world := by
  cases paused with
  | made => rfl
  | added add => rw [attempt, bind_apply, add]
  | applied add applied => simp only [attempt, bind_apply, add, Probe.apply, applied]

section

variable {F : Footprint World} {permit : Permit} (hosts : F.Hosts permit)

include hosts

theorem allowed : F.allows world pause.world := by
  cases paused with
  | made => exact F.refl world
  | added add => exact (hosts.managerAdd _ _ ref).of_run add
  | applied add applied =>
    exact F.trans ((hosts.managerAdd _ _ ref).of_run add)
      ((hosts.managerApply _ _ _ _).of_run applied)

theorem within_rest : Within F pause.rest := by
  cases paused with
  | made => exact within_attempt hosts probe ref
  | added add => exact within_apply hosts probe _
  | applied add applied => exact within_conclude probe _ _

end

theorem tracked (inside : context.ledger.index < world.ledgers.size) :
    ∀ other ∈ pause.registered, other ∈ (pause.world.ledger context.ledger).changes := by
  intro other member
  have hosts := Footprint.tracking_hosts context.ledger
  cases paused with
  | made => cases member
  | added add =>
    obtain rfl := List.mem_singleton.mp member
    exact ChangeManager.add_tracks rfl add
  | applied add applied =>
    obtain rfl := List.mem_singleton.mp member
    have begun := (hosts.managerAdd _ _ other).of_run add
    exact ((hosts.managerApply _ _ _ _).of_run applied).kept
      (Nat.lt_of_lt_of_le inside begun.size) other (ChangeManager.add_tracks rfl add)

end Pauses

end Probe

namespace DirectoryCheck

/-- The points of a check: before and after its movements, and within the one that makes a change. -/
inductive Pauses (context : StrikeContext) (check : DirectoryCheck) (world : World) :
    Pause StrikeResult → Prop
  | started : Pauses context check world ⟨world, [], check.run context⟩
  | opened {result : StrikeResult} {middle : World}
    (ran : check.opening context world = (.done result, middle)) :
    Pauses context check world ⟨middle, result.report.changes, check.closing context result⟩
  | inside {result : StrikeResult} {middle inner : World} {directory : String} {probe : Probe}
    {ref : Ref Change} {pause : Pause Movement}
    (ran : check.opening context world = (.done result, middle))
    (probes : check.probe = some probe) (permitted : result.invasive = true)
    (there : existingTarget middle.files context = .ok directory)
    (made : probe.make context middle = (.done ref, inner))
    (paused : probe.Pauses context directory ref inner pause) :
    Pauses context check world ⟨pause.world, result.report.changes ++ pause.registered,
      result.executeMovement probe.name pause.rest⟩
  | returned {result : StrikeResult} {after : World}
    (ran : check.run context world = (.done result, after)) :
    Pauses context check world ⟨after, result.report.changes, pure result⟩

namespace Pauses

variable {context : StrikeContext} {check : DirectoryCheck} {world : World}
  {pause : Pause StrikeResult} (paused : check.Pauses context world pause)

include paused

theorem resume : check.run context world = pause.rest pause.world := by
  cases paused with
  | started => rfl
  | opened ran => rw [run, bind_apply, ran]
  | @inside result middle _ _ probe _ _ ran probes permitted there made paused =>
    have same := probe.movement_eq there
    simp only [bind_apply, made, paused.resume] at same
    simp only [run, bind_apply, ran, closing, probes, StrikeResult.executeInvasiveMovement,
      permitted, ↓reduceIte, StrikeResult.executeMovement, same]
  | returned ran => exact ran

section

variable {F : Footprint World} {permit : Permit} (hosts : F.Hosts permit)
  (canary : ∀ name content, permit.makes (canaryFile name content))
  (flag : permit.makes readonlyFlag)

include hosts canary flag

theorem allowed : F.allows world pause.world := by
  cases paused with
  | started => exact F.refl world
  | opened ran => exact (within_opening hosts check).of_run ran
  | @inside result middle _ _ probe _ _ ran probes permitted there made paused =>
    have make : Within F (probe.make context) := probe.within_make hosts canary flag
    exact F.trans ((within_opening hosts check).of_run ran)
      (F.trans (make.of_run made) (paused.allowed hosts))
  | returned ran => exact (within_run hosts context check canary flag).of_run ran

theorem within_rest : Within F pause.rest := by
  cases paused with
  | started => exact within_run hosts context check canary flag
  | opened ran => exact within_closing hosts check canary flag _
  | inside ran probes permitted there made paused =>
    exact hosts.executeMovement _ _ (paused.within_rest hosts)
  | returned ran => exact within_pure _

end

theorem tracked (inside : context.ledger.index < world.ledgers.size) :
    ∀ ref ∈ pause.registered, ref ∈ (pause.world.ledger context.ledger).changes := by
  have hosts := Footprint.tracking_hosts context.ledger
  have opened {result : StrikeResult} {middle : World}
      (ran : check.opening context world = (.done result, middle)) :
      result.ledger = some context.ledger ∧ context.ledger.index < middle.ledgers.size ∧
        ∀ ref ∈ result.report.changes, ref ∈ (middle.ledger context.ledger).changes := by
    have begun := (within_opening hosts check).of_run ran
    have backed : (context.strikeResult check.description).ledger = some context.ledger := rfl
    obtain ⟨backed, tracked⟩ := StrikeResult.executeMovement_tracked backed inside
      (check.look.within_movement context) (fun ref member => by cases member) ran
    exact ⟨backed, Nat.lt_of_lt_of_le inside begun.size, tracked⟩
  cases paused with
  | started => intro ref member; cases member
  | opened ran => exact (opened ran).2.2
  | @inside result middle _ _ probe _ _ ran probes permitted there made paused =>
    obtain ⟨-, inside, known⟩ := opened ran
    have make := (probe.within_make hosts (fun _ _ => trivial) trivial).of_run made
    have inside' := Nat.lt_of_lt_of_le inside make.size
    intro ref member
    rcases List.mem_append.mp member with earlier | later
    · exact (paused.allowed hosts).kept inside' ref (make.kept inside ref (known ref earlier))
    · exact paused.tracked inside' ref later
  | returned ran =>
    obtain ⟨result, middle, first, ran⟩ := bind_eq_done ran
    obtain ⟨backed, inside, known⟩ := opened first
    unfold closing at ran
    cases probes : check.probe with
    | none =>
      rw [probes] at ran
      cases ran
      exact known
    | some probe =>
      simp only [probes, StrikeResult.executeInvasiveMovement] at ran
      split at ran
      · exact (StrikeResult.executeMovement_tracked backed inside
          (probe.within_movement hosts (fun _ _ => trivial) trivial) known ran).2
      · cases ran
        exact known

end Pauses

end DirectoryCheck

namespace Strike

inductive Pauses (strike : Strike) (context : StrikeContext) (world : World) :
    Pause StrikeResult → Prop
  | scripted {script : StrikeScript} {pause : Pause StrikeResult}
    (body : strike.body = .scripted script)
    (paused : Script.Pauses context.ledger (some context) (script.fresh context) script.steps
      (StrikeScript.begun strike.name context world) pause) : Pauses strike context world pause
  | directory {check : DirectoryCheck} {pause : Pause StrikeResult}
    (body : strike.body = .directory check) (paused : check.Pauses context world pause) :
    Pauses strike context world pause

namespace Pauses

variable {strike : Strike} {context : StrikeContext} {world : World} {pause : Pause StrikeResult}
  (paused : strike.Pauses context world pause)

include paused

/-- The body goes on from a point with what is left. -/
theorem resume : strike.run context world = pause.rest pause.world := by
  cases paused with
  | scripted body paused =>
    rw [run, body, ← paused.resume]
    rfl
  | directory body paused =>
    rw [run, body]
    exact paused.resume

section

variable {F : Footprint World} {permit : Permit} (hosts : F.Hosts permit)
  (permitted : strike.body.Permitted permit)

include hosts permitted

theorem allowed : F.allows world pause.world := by
  cases paused with
  | scripted body paused =>
    rw [body] at permitted
    exact F.trans (hosts.emit _ rfl world)
      (paused.allowed hosts fun action member => permitted.action member)
  | directory body paused =>
    rw [body] at permitted
    exact paused.allowed hosts (fun name content => permitted.makes _ (.inl ⟨name, content, rfl⟩))
      (permitted.makes _ (.inr rfl))

theorem within_rest : Within F pause.rest := by
  cases paused with
  | scripted body paused =>
    rw [body] at permitted
    exact paused.within_rest hosts fun action member => permitted.action member
  | directory body paused =>
    rw [body] at permitted
    exact paused.within_rest hosts
      (fun name content => permitted.makes _ (.inl ⟨name, content, rfl⟩))
      (permitted.makes _ (.inr rfl))

end

/-- What a body has registered at a point stands in the ledger. -/
theorem tracked (inside : context.ledger.index < world.ledgers.size) :
    ∀ ref ∈ pause.registered, ref ∈ (pause.world.ledger context.ledger).changes := by
  cases paused with
  | scripted body paused => exact paused.tracked inside
  | directory body paused => exact paused.tracked inside

end Pauses

end Strike

end Raid
