import Raid.Manager
import Raid.Proofs.Parallel
import Raid.Strike.Result
import Raid.Watch

/-!
Two runs of which the second makes one ledger more on its way. From then on the ledgers have higher
numbers in the second run, and nothing else is different: whatever works on ledgers does the same on
both sides, but for their numbers.
-/

namespace Raid

open Act

/-- The second of two runs stops over: it makes a ledger that the first does not make. -/
structure Stopover where
  /-- The number of the ledger. -/
  place : Nat
  /-- Whether the ledger was made already. -/
  past : Bool
  /-- What the first run noted before the two went the same way. -/
  journal : List Event := []
  /-- And what the second noted. -/
  journal' : List Event := []

namespace Stopover

variable (stop : Stopover)

def ledger (ref : Ref Ledger) : Ref Ledger :=
  if ref.index < stop.place then ref else ⟨ref.index + 1⟩

def context (context : StrikeContext) : StrikeContext :=
  { context with ledger := stop.ledger context.ledger }

def manager (manager : ChangeManager) : ChangeManager :=
  { manager with ledger := manager.ledger.map stop.ledger }

def result (result : StrikeResult) : StrikeResult :=
  { result with ledger := result.ledger.map stop.ledger }

def watch (watch : Watch) : Watch := { watch with ledger := stop.ledger watch.ledger }

def slot (slot : WatchSlot) : WatchSlot := ⟨slot.watch.map stop.watch⟩

def bench (bench : Bench) : Bench :=
  { bench with
    managers := bench.managers.map stop.manager
    ledgers := bench.ledgers.map stop.ledger
    contexts := bench.contexts.map stop.context
    results := bench.results.map stop.result }

def extra : Nat := if stop.past then 1 else 0

/-- As long as the second run has not made its ledger, the first has none of its number. -/
def Room (world : World) : Prop := stop.past = false → world.ledgers.size ≤ stop.place

theorem ledger_inj {a b : Ref Ledger} : stop.ledger a = stop.ledger b ↔ a = b := by
  obtain ⟨a⟩ := a
  obtain ⟨b⟩ := b
  simp only [ledger]
  split <;> split <;> simp only [Ref.mk.injEq] <;> omega

end Stopover

/-- The worlds of the two runs are the same but for the numbers of the ledgers, and from some point
on the same was noted. -/
structure World.Abreast (stop : Stopover) (first second : World) : Prop where
  same : ∃ ledgers slots bench journal, second =
    { first with ledgers := ledgers, slots := slots, bench := bench, journal := journal }
  size : second.ledgers.size = first.ledgers.size + stop.extra
  behind : stop.past = true → stop.place ≤ first.ledgers.size
  ledgers : ∀ ref, second.ledger (stop.ledger ref) = first.ledger ref
  slotsMade : second.slots.size = first.slots.size
  slots : ∀ ref, second.slots.get ref = stop.slot (first.slots.get ref)
  bench : second.bench = stop.bench first.bench
  journals : ∃ events, first.journal = stop.journal ++ events ∧
    second.journal = stop.journal' ++ events

namespace World.Abreast

variable {stop : Stopover} {first second : World} (abreast : first.Abreast stop second)

include abreast

theorem change (ref : Ref Change) : second.change ref = first.change ref := by
  obtain ⟨ledgers, slots, bench, journal, rfl⟩ := abreast.same
  rfl

theorem now : second.now = first.now := by
  obtain ⟨ledgers, slots, bench, journal, rfl⟩ := abreast.same
  rfl

theorem executed : second.executed = first.executed := by
  obtain ⟨ledgers, slots, bench, journal, rfl⟩ := abreast.same
  rfl

theorem managerView (manager : ChangeManager) :
    second.managerView (stop.manager manager) = first.managerView manager := by
  obtain ⟨ledgers, slots, bench, journal, rfl⟩ := abreast.same
  rfl

theorem resultView (result : StrikeResult) :
    second.resultView (stop.result result) = first.resultView result := by
  obtain ⟨ledgers, slots, bench, journal, rfl⟩ := abreast.same
  rfl

theorem ledgerChanges (ledger : Ref Ledger) :
    second.ledgerChanges (stop.ledger ledger) = first.ledgerChanges ledger := by
  rw [World.ledgerChanges, abreast.ledgers ledger]
  obtain ⟨ledgers, slots, bench, journal, rfl⟩ := abreast.same
  rfl

end World.Abreast

namespace Stopover

/-- The works come to the same on both sides, but for a renaming of what they come to. -/
abbrev Along (stop : Stopover) {α β : Type} (f : α → β) (work : Task α) (other : Task β) : Prop :=
  Parallel (World.Abreast stop) stop.Room f work other

variable {stop : Stopover} {α β : Type}

/-- Work that neither reads nor changes ledgers, slots, bench and journal. -/
theorem along_aside {work : Task α}
    (silent : ∀ world ledgers slots bench journal,
      work { world with ledgers := ledgers, slots := slots, bench := bench, journal := journal } =
        ((work world).1, { (work world).2 with
          ledgers := ledgers, slots := slots, bench := bench, journal := journal })) :
    stop.Along id work work where
  roomy world after := by
    have kept : (work world).2.ledgers = world.ledgers :=
      congrArg (fun run => run.2.ledgers)
        (silent world world.ledgers world.slots world.bench world.journal)
    rwa [Room, kept] at after
  alike first second abreast _ := by
    obtain ⟨ledgers, slots, bench, journal, rfl⟩ := abreast.same
    have own := congrArg Prod.snd (silent first first.ledgers first.slots first.bench first.journal)
    have left : (work first).2 = { (work first).2 with
        ledgers := first.ledgers, slots := first.slots, bench := first.bench
        journal := first.journal } := own
    rw [silent first ledgers slots bench journal]
    refine ⟨(Outcome.map_id _).symm, ?_⟩
    rw [left]
    exact { abreast with same := ⟨_, _, _, _, rfl⟩ }

theorem along_read {next : World → Task α} {next' : World → Task β} {f : α → β}
    (blind : ∀ world ledgers slots bench journal,
      next' { world with ledgers := ledgers, slots := slots, bench := bench, journal := journal } =
        next' world)
    (rest : ∀ world, stop.Along f (next world) (next' world)) :
    stop.Along f (Act.read >>= next) (Act.read >>= next') := by
  refine parallel_read next' (fun first second abreast => ?_) rest
  obtain ⟨ledgers, slots, bench, journal, rfl⟩ := abreast.same
  exact blind first ledgers slots bench journal

theorem along_readSame {next next' : World → Task α}
    (same : ∀ {first second}, World.Abreast stop first second → next' second = next first)
    (rest : ∀ world, stop.Along id (next world) (next world)) :
    stop.Along id (Act.read >>= next) (Act.read >>= next') :=
  parallel_read next (fun _ _ => same) rest

theorem along_emit (event : Event) : stop.Along id (Task.emit event) (Task.emit event) where
  roomy _ := id
  alike first second abreast _ := by
    obtain ⟨events, own, other⟩ := abreast.journals
    obtain ⟨ledgers, slots, bench, journal, rfl⟩ := abreast.same
    refine ⟨rfl, { abreast with same := ⟨_, _, _, _, rfl⟩, journals := ⟨events ++ [event], ?_⟩ }⟩
    rw [← List.append_assoc, ← List.append_assoc, ← own, ← other]
    exact ⟨rfl, rfl⟩

theorem along_log (level : LogLevel) (area : LogArea) (message : String)
    (fields : List (String × Json)) :
    stop.Along id (Task.log level area message fields) (Task.log level area message fields) :=
  along_emit _

theorem along_newChange (change : Change) :
    stop.Along id (Task.newChange change) (Task.newChange change) :=
  along_aside fun _ _ _ _ _ => rfl

theorem along_setChange (ref : Ref Change) (change : Change) :
    stop.Along id (Task.setChange ref change) (Task.setChange ref change) :=
  along_aside fun _ _ _ _ _ => rfl

theorem along_newExecuted (names : List String) :
    stop.Along id (Task.newExecuted names) (Task.newExecuted names) :=
  along_aside fun _ _ _ _ _ => rfl

theorem along_recordExecuted (ref : Ref ExecutedStrikes) (name : String) :
    stop.Along id (Task.recordExecuted ref name) (Task.recordExecuted ref name) :=
  along_aside fun _ _ _ _ _ => rfl

theorem along_executedNames (ref : Ref ExecutedStrikes) :
    stop.Along id (Task.executedNames ref) (Task.executedNames ref) :=
  along_aside fun _ _ _ _ _ => rfl

theorem along_setFiles (files : FileTree) :
    stop.Along id (Task.setFiles files) (Task.setFiles files) :=
  along_aside fun _ _ _ _ _ => rfl

theorem along_newLedger : stop.Along stop.ledger Task.newLedger Task.newLedger where
  roomy world after still := Nat.le_of_succ_le (after still)
  alike first second abreast after := by
    have number : stop.ledger ⟨first.ledgers.size⟩ = ⟨second.ledgers.size⟩ := by
      rw [abreast.size, ledger, extra]
      cases past : stop.past with
      | true =>
        have behind := abreast.behind past
        rw [if_neg (by simpa using behind), if_pos rfl]
      | false =>
        have ahead : first.ledgers.size + 1 ≤ stop.place := after past
        rw [if_pos (Nat.lt_of_succ_le ahead)]
        rfl
    refine ⟨congrArg Outcome.done number.symm, ?_⟩
    have ledgers (ref : Ref Ledger) : (second.ledgers.add {}).2.get (stop.ledger ref) =
        (first.ledgers.add {}).2.get ref := by
      by_cases new : ref = ⟨first.ledgers.size⟩
      · subst new
        rw [number]
        exact (second.ledgers.get_add_self {}).trans (first.ledgers.get_add_self {}).symm
      · rw [Table.get_add_of_ne _ _ fun same => new (Ref.eq_iff.mpr same),
          Table.get_add_of_ne _ _ fun same => ?_]
        · exact abreast.ledgers ref
        · exact new (stop.ledger_inj.mp ((Ref.eq_iff.mpr same).trans number.symm))
    have size := abreast.size
    obtain ⟨_, slots, bench, journal, rfl⟩ := abreast.same
    exact { abreast with
      same := ⟨_, slots, bench, journal, rfl⟩
      size := by
        simp only [Task.newLedger, Table.add] at size ⊢
        omega
      behind := fun past => Nat.le_succ_of_le (abreast.behind past)
      ledgers := ledgers }

theorem along_setLedger (ref : Ref Ledger) (changes : List (Ref Change)) :
    stop.Along id
      (Act.change fun world => { world with ledgers := world.ledgers.set ref ⟨changes⟩ })
      (Act.change fun world =>
        { world with ledgers := world.ledgers.set (stop.ledger ref) ⟨changes⟩ }) where
  roomy _ := id
  alike first second abreast _ := by
    refine ⟨rfl, ?_⟩
    have ledgers (other : Ref Ledger) :
        (second.ledgers.set (stop.ledger ref) ⟨changes⟩).get (stop.ledger other) =
          (first.ledgers.set ref ⟨changes⟩).get other := by
      simp only [Table.get_set, stop.ledger_inj]
      split
      · rfl
      · exact abreast.ledgers other
    obtain ⟨_, slots, bench, journal, rfl⟩ := abreast.same
    exact { abreast with same := ⟨_, slots, bench, journal, rfl⟩, ledgers := ledgers }

theorem along_newSlot : stop.Along id Task.newSlot Task.newSlot where
  roomy _ := id
  alike first second abreast _ := by
    refine ⟨congrArg (fun size => Outcome.done (Ref.mk size)) abreast.slotsMade, ?_⟩
    have slots (ref : Ref WatchSlot) : (second.slots.add {}).2.get ref =
        stop.slot ((first.slots.add {}).2.get ref) := by
      by_cases new : ref.index = first.slots.size
      · obtain rfl : ref = ⟨first.slots.size⟩ := Ref.eq_iff.mpr new
        have own := first.slots.get_add_self {}
        have other := second.slots.get_add_self {}
        simp only [Table.add, abreast.slotsMade] at own other ⊢
        rw [own, other]
        rfl
      · rw [Table.get_add_of_ne _ _ new, Table.get_add_of_ne _ _ (abreast.slotsMade ▸ new)]
        exact abreast.slots ref
    have made := abreast.slotsMade
    obtain ⟨ledgers, _, bench, journal, rfl⟩ := abreast.same
    exact { abreast with
      same := ⟨ledgers, _, bench, journal, rfl⟩
      slotsMade := congrArg (· + 1) made
      slots := slots }

theorem along_setSlot (ref : Ref WatchSlot) (watch : Option Watch) :
    stop.Along id (Task.setSlot ref watch) (Task.setSlot ref (watch.map stop.watch)) where
  roomy _ := id
  alike first second abreast _ := by
    refine ⟨rfl, ?_⟩
    have slots (other : Ref WatchSlot) :
        (second.slots.set ref ⟨watch.map stop.watch⟩).get other =
          stop.slot ((first.slots.set ref ⟨watch⟩).get other) := by
      simp only [Table.get_set]
      split
      · rfl
      · exact abreast.slots other
    obtain ⟨ledgers, _, bench, journal, rfl⟩ := abreast.same
    exact { abreast with same := ⟨ledgers, _, bench, journal, rfl⟩, slots := slots }

theorem along_onBench {f f' : Bench → Bench}
    (same : ∀ bench, f' (stop.bench bench) = stop.bench (f bench)) :
    stop.Along id (Task.onBench f) (Task.onBench f') where
  roomy _ := id
  alike first second abreast _ := by
    have bench : f' second.bench = stop.bench (f first.bench) := by
      rw [abreast.bench, same]
    obtain ⟨ledgers, slots, _, journal, rfl⟩ := abreast.same
    exact ⟨rfl, { abreast with same := ⟨ledgers, slots, _, journal, rfl⟩, bench := bench }⟩

end Stopover

namespace Change

open Stopover

variable {stop : Stopover}

theorem along_writeFileIn (name content : String) (input : Json) :
    stop.Along id (writeFileIn name content input) (writeFileIn name content input) := by
  refine along_aside fun world ledgers slots bench journal => ?_
  simp only [writeFileIn]
  split
  · rfl
  · split <;> rfl

theorem along_markReadonlyIn (input : Json) :
    stop.Along id (markReadonlyIn input) (markReadonlyIn input) := by
  refine along_aside fun world ledgers slots bench journal => ?_
  simp only [markReadonlyIn]
  split
  · rfl
  · split
    · rfl
    · split <;> rfl

theorem along_removeFileOf (target : Json) :
    stop.Along id (removeFileOf target) (removeFileOf target) := by
  refine along_aside fun world ledgers slots bench journal => ?_
  simp only [removeFileOf]
  split
  · rfl
  · split <;> rfl

theorem along_restorePermissionsOf (noted : Option Permissions) (target : Json) :
    stop.Along id (restorePermissionsOf noted target) (restorePermissionsOf noted target) := by
  refine along_aside fun world ledgers slots bench journal => ?_
  simp only [restorePermissionsOf]
  split
  · rfl
  · rfl
  · split <;> rfl

theorem along_callApply (ref : Ref Change) (targetName : String) (input : Json)
    (function : ApplyFunction) :
    stop.Along id (callApply ref targetName input function)
      (callApply ref targetName input function) := by
  cases function with
  | scripted replies =>
    simp only [callApply]
    generalize nextReply replies = answer
    refine along_read (fun _ _ _ _ _ => rfl) fun world =>
      parallel_bind_same (along_emit _) fun _ =>
        parallel_bind_same (along_setChange _ _) fun _ => ?_
    cases answer.1 with
    | value value => exact parallel_pure rfl
    | echo => exact parallel_pure rfl
    | failure causes => exact parallel_pure rfl
    | panic payload => exact parallel_panic payload
  | writeFile name content => exact along_writeFileIn name content input
  | markReadonly =>
    refine parallel_bind_same (along_markReadonlyIn input) fun answer => ?_
    cases answer with
    | error reason => exact parallel_pure rfl
    | ok marked =>
      exact along_read (fun _ _ _ _ _ => rfl) fun world =>
        parallel_bind_same (along_setChange _ _) fun _ => parallel_pure rfl

theorem along_callRevert (ref : Ref Change) (target : Json) (function : RevertFunction) :
    stop.Along id (callRevert ref target function) (callRevert ref target function) := by
  cases function with
  | scripted replies =>
    simp only [callRevert]
    generalize nextReply replies = answer
    refine along_read (fun _ _ _ _ _ => rfl) fun world =>
      parallel_bind_same (along_emit _) fun _ =>
        parallel_bind_same (along_setChange _ _) fun _ => ?_
    cases answer.1 with
    | value value => exact parallel_pure rfl
    | echo => exact parallel_pure rfl
    | failure causes => exact parallel_pure rfl
    | panic payload => exact parallel_panic payload
  | removeFile => exact along_removeFileOf target
  | restorePermissions noted =>
    exact along_read (fun _ _ _ _ _ => rfl) fun world =>
      parallel_bind_same (along_setChange _ _) fun _ => along_restorePermissionsOf noted target

theorem along_apply (ref : Ref Change) (targetName : String) (input : Json) :
    stop.Along id (apply ref targetName input) (apply ref targetName input) := by
  refine along_read (fun _ _ _ _ _ => rfl) fun world => parallel_ite (parallel_pure rfl) ?_
  split
  · exact parallel_bind_same (along_setChange _ _) fun _ => parallel_pure rfl
  · exact parallel_pure rfl
  · refine parallel_ite (parallel_pure rfl) (parallel_bind_same (along_callApply _ _ _ _) ?_)
    intro answer
    refine along_read (fun _ _ _ _ _ => rfl) fun world => ?_
    cases answer with
    | ok target => exact parallel_bind_same (along_setChange _ _) fun _ => parallel_pure rfl
    | error reason => exact parallel_bind_same (along_setChange _ _) fun _ => parallel_pure rfl

theorem along_revert (ref : Ref Change) : stop.Along id (revert ref) (revert ref) := by
  refine along_read (fun _ _ _ _ _ => rfl) fun world =>
    parallel_ite (parallel_pure rfl) (parallel_ite (parallel_pure rfl) ?_)
  split
  · exact parallel_bind_same (along_setChange _ _) fun _ => parallel_pure rfl
  · refine parallel_bind_same (along_callRevert _ _ _) fun answer =>
      along_read (fun _ _ _ _ _ => rfl) fun world => ?_
    cases answer with
    | ok value => exact parallel_bind_same (along_setChange _ _) fun _ => parallel_pure rfl
    | error reason => exact parallel_bind_same (along_setChange _ _) fun _ => parallel_pure rfl

theorem along_revertEach (area : LogArea) (heading : String) (refs : List (Ref Change)) :
    stop.Along id (revertEach area heading refs) (revertEach area heading refs) := by
  induction refs with
  | nil => exact parallel_pure rfl
  | cons ref rest ih =>
    refine parallel_bind_same (along_revert ref) fun answer => ?_
    cases answer with
    | ok value => exact ih
    | error error =>
      exact parallel_bind_same (along_aside fun _ _ _ _ _ => rfl) fun name =>
        parallel_bind_same (along_log _ _ _ _) fun _ =>
          parallel_bind_same ih fun others => parallel_pure rfl

end Change

namespace Ledger

open Stopover

variable {stop : Stopover}

theorem along_registered {α : Type} (ledger : Ref Ledger) {next next' : World → Task α}
    (work work' : World → List (Ref Change) → Task α)
    (own : ∀ world, next world = work world (world.ledger ledger).changes)
    (other : ∀ world, next' world = work' world (world.ledger (stop.ledger ledger)).changes)
    (blind : ∀ world ledgers slots bench journal, work'
      { world with ledgers := ledgers, slots := slots, bench := bench, journal := journal } =
        work' world)
    (rest : ∀ world changes, stop.Along id (work world changes) (work' world changes)) :
    stop.Along id (Act.read >>= next) (Act.read >>= next') := by
  refine parallel_read (fun world => work' world (world.ledger ledger).changes) ?_ fun world => ?_
  · intro first second abreast
    have held := abreast.ledgers ledger
    obtain ⟨ledgers, slots, bench, journal, rfl⟩ := abreast.same
    rw [other, held, blind]
  · rw [own]
    exact rest world _

theorem along_track (ledger : Ref Ledger) (ref : Ref Change) :
    stop.Along id (track ledger ref) (track (stop.ledger ledger) ref) := by
  let work (ledger : Ref Ledger) (world : World) (changes : List (Ref Change)) : Task Unit :=
    if ref ∈ changes then pure ()
    else do
      Task.log .debug .ledger "tracking change" [("change", .text (world.change ref).name)]
      Act.change fun world =>
        { world with ledgers := world.ledgers.set ledger ⟨changes ++ [ref]⟩ }
  refine along_registered ledger (work ledger) (work (stop.ledger ledger)) (fun _ => rfl)
    (fun _ => rfl) (fun _ _ _ _ _ => rfl) fun world changes => ?_
  exact parallel_ite (parallel_pure rfl) (parallel_bind_same (along_log _ _ _ _) fun _ =>
    along_setLedger ledger _)

theorem along_trackEach (ledger : Ref Ledger) (refs : List (Ref Change)) :
    stop.Along id (trackEach ledger refs) (trackEach (stop.ledger ledger) refs) := by
  induction refs with
  | nil => exact parallel_pure rfl
  | cons ref rest ih => exact parallel_bind_same (along_track ledger ref) fun _ => ih

theorem along_revertAll (ledger : Ref Ledger) :
    stop.Along id (revertAll ledger) (revertAll (stop.ledger ledger)) :=
  along_registered ledger (fun _ => Change.revertEach .ledger "change could not be reverted")
    (fun _ => Change.revertEach .ledger "change could not be reverted")
    (fun _ => rfl) (fun _ => rfl) (fun _ _ _ _ _ => rfl) fun _ _ => Change.along_revertEach _ _ _

end Ledger

namespace ChangeManager

open Stopover

variable {stop : Stopover}

theorem along_add (manager : ChangeManager) (name : String) (ref : Ref Change) :
    stop.Along stop.manager (manager.add name ref) ((stop.manager manager).add name ref) := by
  obtain ⟨changes, allowed, badState, ledger⟩ := manager
  cases ledger with
  | some ledger =>
    exact parallel_bind_same (Ledger.along_track ledger ref) fun _ => parallel_ite
      (parallel_bind_same (along_log _ _ _ _) fun _ => parallel_pure rfl) (parallel_pure rfl)
  | none =>
    exact parallel_ite (parallel_bind_same (along_log _ _ _ _) fun _ => parallel_pure rfl)
      (parallel_pure rfl)

theorem along_apply (manager : ChangeManager) (name targetName : String) (input : Json) :
    stop.Along (Prod.map id stop.manager) (manager.apply name targetName input)
      ((stop.manager manager).apply name targetName input) := by
  refine parallel_ite (parallel_bind_same (along_log _ _ _ _) fun _ => parallel_pure rfl) ?_
  simp only [Stopover.manager]
  cases manager.changes.get? name with
  | none => exact parallel_pure rfl
  | some ref =>
    refine parallel_bind_same (Change.along_apply ref targetName input) fun answer => ?_
    cases answer with
    | ok target => exact parallel_pure rfl
    | error error => exact parallel_bind_same (along_log _ _ _ _) fun _ => parallel_pure rfl

theorem along_revert (manager : ChangeManager) (name : String) :
    stop.Along (Prod.map id stop.manager) (manager.revert name)
      ((stop.manager manager).revert name) := by
  simp only [revert, Stopover.manager]
  cases manager.changes.get? name with
  | none => exact parallel_pure rfl
  | some ref =>
    refine parallel_bind_same (Change.along_revert ref) fun answer => ?_
    cases answer with
    | ok value => exact parallel_pure rfl
    | error error => exact parallel_pure rfl

theorem along_revertQuietly (refs : List (Ref Change)) :
    stop.Along id (revertQuietly refs) (revertQuietly refs) := by
  induction refs with
  | nil => exact parallel_pure rfl
  | cons ref rest ih =>
    refine parallel_bind_same (Change.along_revert ref) fun answer => ?_
    cases answer with
    | ok value => exact ih
    | error error => exact parallel_bind_same ih fun others => parallel_pure rfl

theorem along_revertAll (manager : ChangeManager) :
    stop.Along (Prod.map id stop.manager) manager.revertAll (stop.manager manager).revertAll :=
  parallel_bind_same (along_revertQuietly _) fun _ => parallel_pure rfl

end ChangeManager

namespace StrikeResult

open Stopover

variable {stop : Stopover}

theorem along_executeMovement (result : StrikeResult) (name : String)
    {movement movement' : Task (MovementReport (Ref Change))}
    (inner : stop.Along id movement movement') :
    stop.Along stop.result (result.executeMovement name movement)
      ((stop.result result).executeMovement name movement') := by
  obtain ⟨told, invasive, ledger⟩ := result
  refine parallel_bind_same inner fun report => ?_
  cases ledger with
  | some ledger =>
    exact parallel_bind_same (Ledger.along_trackEach ledger _) fun _ =>
      parallel_bind_same (along_emit _) fun _ => parallel_pure rfl
  | none => exact parallel_bind_same (along_emit _) fun _ => parallel_pure rfl

theorem along_executeInvasiveMovement (result : StrikeResult) (name : String)
    {movement movement' : Task (MovementReport (Ref Change))}
    (inner : stop.Along id movement movement') :
    stop.Along stop.result (result.executeInvasiveMovement name movement)
      ((stop.result result).executeInvasiveMovement name movement') :=
  parallel_ite (along_executeMovement result name inner)
    (parallel_bind_same (along_log _ _ _ _) fun _ => parallel_pure rfl)

theorem result_withDefaultMessage (result : StrikeResult) :
    (stop.result result).withDefaultMessage = stop.result result.withDefaultMessage := by
  rw [withDefaultMessage, withDefaultMessage, apply_ite stop.result]
  rfl

theorem along_followThrough (result : StrikeResult) :
    stop.Along stop.result result.followThrough (stop.result result).followThrough := by
  simp only [followThrough, result_withDefaultMessage]
  refine parallel_bind_same (Change.along_revertEach _ _ _) fun failures => parallel_pure ?_
  split <;> rfl

end StrikeResult

namespace Watch

open Stopover

variable {stop : Stopover}

theorem along_watching (slot : Ref WatchSlot) :
    stop.Along id (watching slot) (watching slot) := by
  refine parallel_look fun first second abreast => ?_
  rw [abreast.slots slot, Outcome.map_id, Stopover.slot, Option.map_map]
  rfl

def attend (trigger : String) (count : Nat) (watch : Watch) : Task Unit := do
  Task.log .warn .listener "termination requested; reverting changes"
    [("tactic", .text watch.tactic), ("signal", .text trigger), ("changes", .nat count)]
  let failures ← Ledger.revertAll watch.ledger
  if failures.isEmpty then
    Task.log .info .listener "cleanup completed; all changes reverted"
      [("tactic", .text watch.tactic)]
  else
    Task.log .error .listener "cleanup failed; the target system may be in a bad state"
      [("tactic", .text watch.tactic), ("failed", .nat failures.length)]

theorem along_attend (trigger : String) (count : Nat) (watch : Watch) :
    stop.Along id (attend trigger count watch) (attend trigger count (stop.watch watch)) :=
  parallel_bind_same (along_log _ _ _ _) fun _ =>
    parallel_bind_same (Ledger.along_revertAll watch.ledger) fun _ =>
      parallel_ite (along_log _ _ _ _) (along_log _ _ _ _)

theorem along_cleanUp (slot : Ref WatchSlot) (trigger : String) :
    stop.Along id (cleanUp slot trigger) (cleanUp slot trigger) := by
  let image (world : World) : Task Unit :=
    (world.slots.get slot).watch.elim
      (Task.log .warn .listener "termination requested; no tactic running"
        [("signal", .text trigger)])
      fun watch => attend trigger (world.ledger watch.ledger).changes.length (stop.watch watch)
  refine parallel_read image (fun first second abreast => ?_) fun world => ?_
  · simp only [image, abreast.slots slot, Stopover.slot]
    cases (first.slots.get slot).watch with
    | none => rfl
    | some watch =>
      have held : second.ledger (stop.watch watch).ledger = first.ledger watch.ledger :=
        abreast.ledgers watch.ledger
      simp only [Option.map_some, held]
      rfl
  · simp only [image]
    cases (world.slots.get slot).watch with
    | none => exact along_log _ _ _ _
    | some watch => exact along_attend _ _ _

theorem along_processSlot : stop.Along id processSlot processSlot := by
  refine along_read (fun _ _ _ _ _ => rfl) fun world => ?_
  cases world.processSlot with
  | some slot => exact parallel_pure rfl
  | none =>
    exact parallel_bind_same along_newSlot fun slot =>
      parallel_bind_same (along_aside fun _ _ _ _ _ => rfl) fun _ => parallel_pure rfl

end Watch

namespace Listener

open Stopover

variable {stop : Stopover}

theorem along_stop (listener : Listener) : stop.Along id listener.stop listener.stop :=
  parallel_ite (along_log _ _ _ _) (parallel_pure rfl)

theorem along_trigger (listener : Listener) (label : String) :
    stop.Along id (listener.trigger label) (listener.trigger label) := by
  refine parallel_ite (along_log _ _ _ _) ?_
  refine parallel_bind (parallel_caught (Watch.along_cleanUp listener.slot label)) fun answer => ?_
  cases answer with
  | error payload => exact parallel_pure rfl
  | ok value => exact parallel_ite (parallel_halt _) (parallel_pure rfl)

end Listener

end Raid
