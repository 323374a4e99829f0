import Raid.Manager
import Raid.Proofs.Change.Withdrawing
import Raid.Proofs.Tactic.Matching

/-!
What bodies without permission to change anything have to work with. Some names stand for harmless
objects alone: managers that may not apply changes, results and contexts that are not invasive. Two
runs go on side by side in worlds that only differ in the journal, and on the way there changes were
withdrawn at most; everything that a body does without permission keeps to that.
-/

namespace Raid

open Act

structure HarmlessNames where
  managers : String → Prop := fun _ => False
  results : String → Prop := fun _ => False
  contexts : String → Prop := fun _ => False

structure HarmlessNames.Hold (names : HarmlessNames) (bench : Bench) : Prop where
  managers : ∀ id manager, bench.managers.get? id = some manager → names.managers id →
    manager.allowed = false
  results : ∀ id result, bench.results.get? id = some result → names.results id →
    result.invasive = false
  contexts : ∀ id context, bench.contexts.get? id = some context → names.contexts id →
    context.invasive = false

namespace Dict

variable {α : Type} {property : String → α → Prop} {dict : Dict α}
  (all : ∀ key value, dict.get? key = some value → property key value)

include all

theorem forall_insert {key : String} {value : α} (own : property key value) :
    ∀ other found, (dict.insert key value).get? other = some found → property other found := by
  intro other found here
  rw [get?_insert] at here
  split at here
  · rename_i same
    cases here
    exact same ▸ own
  · exact all other found here

theorem forall_erase (key : String) :
    ∀ other found, (dict.erase key).get? other = some found → property other found := by
  intro other found here
  have member := (List.mem_filter.mp (mem_entries.mpr here)).1
  exact all other found (mem_entries.mp member)

end Dict

namespace HarmlessNames.Hold

variable {names : HarmlessNames} {bench : Bench} (hold : names.Hold bench)

include hold

theorem insertManager {id : String} {manager : ChangeManager}
    (harmless : names.managers id → manager.allowed = false) :
    names.Hold { bench with managers := bench.managers.insert id manager } :=
  { hold with managers := Dict.forall_insert hold.managers harmless }

theorem eraseManager (id : String) :
    names.Hold { bench with managers := bench.managers.erase id } :=
  { hold with managers := Dict.forall_erase hold.managers id }

theorem insertResult {id : String} {result : StrikeResult}
    (harmless : names.results id → result.invasive = false) :
    names.Hold { bench with results := bench.results.insert id result } :=
  { hold with results := Dict.forall_insert hold.results harmless }

theorem insertContext {id : String} {context : StrikeContext}
    (harmless : names.contexts id → context.invasive = false) :
    names.Hold { bench with contexts := bench.contexts.insert id context } :=
  { hold with contexts := Dict.forall_insert hold.contexts harmless }

end HarmlessNames.Hold

/-- There is nothing between the worlds but the journal, the names are harmless, and since an origin
changes were withdrawn at most. -/
structure World.Tamed (names : HarmlessNames) (origin first second : World) : Prop where
  same : first.Unheard second
  hold : names.Hold first.bench
  course : Footprint.withdrawing.allows origin first

namespace World.Tamed

variable {names : HarmlessNames} {origin : World}

/-- Work that is deaf to the journal, and of which the three properties are known by themselves. -/
theorem respects {α : Type} {work : Task α} (deaf : Respects Unheard work)
    (bench : ∀ world, (work world).2.bench = world.bench)
    (inner : Within Footprint.withdrawing work) : Respects (Tamed names origin) work := by
  intro first second tamed
  obtain ⟨outcome, same⟩ := deaf first second tamed.same
  exact ⟨outcome, same, (bench first).symm ▸ tamed.hold,
    Footprint.withdrawing.trans tamed.course (inner first)⟩

theorem unheard {α : Type} {work : Task α}
    (silent : ∀ world journal, work { world with journal := journal } =
      ((work world).1, { (work world).2 with journal := journal })) : Respects Unheard work := by
  rintro first _ ⟨journal, rfl⟩
  rw [silent first journal]
  exact ⟨rfl, journal, rfl⟩

theorem aside {α : Type} {work : Task α}
    (silent : ∀ world journal, work { world with journal := journal } =
      ((work world).1, { (work world).2 with journal := journal }))
    (changes : ∀ world, (work world).2.changes = world.changes)
    (bench : ∀ world, (work world).2.bench = world.bench) : Respects (Tamed names origin) work := by
  refine respects (unheard silent) bench fun world => Footprint.withdrawing_aside (changes world) ?_
  exact congrArg (fun run => run.2.journal) (silent world world.journal)

theorem look {α : Type} (f : World → Outcome α)
    (deaf : ∀ world journal, f { world with journal := journal } = f world) :
    Respects (Tamed names origin) fun world => (f world, world) :=
  aside (fun world journal => by simp only [deaf world journal]) (fun _ => rfl) fun _ => rfl

theorem read {α : Type} {next : World → Task α}
    (deaf : ∀ world journal, next { world with journal := journal } = next world)
    (rest : ∀ world, names.Hold world.bench → Respects (Tamed names origin) (next world)) :
    Respects (Tamed names origin) (Act.read >>= next) := by
  intro first second tamed
  obtain ⟨journal, rfl⟩ := tamed.same
  simp only [bind_apply, read_apply, deaf first journal]
  exact rest first tamed.hold first _ tamed

theorem onBench {f : Bench → Bench} (kept : ∀ bench, names.Hold bench → names.Hold (f bench)) :
    Respects (Tamed names origin) (Task.onBench f) := by
  intro first second tamed
  obtain ⟨journal, rfl⟩ := tamed.same
  exact ⟨rfl, ⟨journal, rfl⟩, kept first.bench tamed.hold,
    Footprint.withdrawing.trans tamed.course (Footprint.withdrawing_aside rfl rfl)⟩

theorem emit {event : Event} (quiet : event.isCall = false) :
    Respects (Tamed names origin) (Task.emit event) := by
  refine respects ?_ (fun _ => rfl) (Footprint.withdrawing_emit quiet)
  rintro first _ ⟨journal, rfl⟩
  exact ⟨rfl, journal ++ [event], rfl⟩

theorem newChange {change : Change} (idle : change.due = false) :
    Respects (Tamed names origin) (Task.newChange change) :=
  respects (unheard fun _ _ => rfl) (fun _ => rfl) (Footprint.withdrawing_newChange idle)

theorem revert (ref : Ref Change) : Respects (Tamed names origin) (Change.revert ref) := by
  refine respects (Change.respects_revert ref) (fun world => ?_) (Footprint.withdrawing_revert ref)
  change (Change.revert ref world).2.surroundings.bench = world.surroundings.bench
  rw [(Change.within_revert ref world).surroundings]

theorem carried (names : HarmlessNames) (origin : World) : Carried (Tamed names origin) where
  same := fun tamed => have ⟨journal, same⟩ := tamed.same; ⟨_, journal, same⟩
  emit _ := emit
  revert := revert
  newLedger := aside (fun _ _ => rfl) (fun _ => rfl) fun _ => rfl
  recordExecuted _ _ := aside (fun _ _ => rfl) (fun _ => rfl) fun _ => rfl
  slots slots processSlot := fun tamed => by
    obtain ⟨journal, rfl⟩ := tamed.same
    exact ⟨⟨journal, rfl⟩, tamed.hold,
      Footprint.withdrawing.trans tamed.course (Footprint.withdrawing_aside rfl rfl)⟩

theorem log (level : LogLevel) (area : LogArea) (message : String)
    (fields : List (String × Json) := []) :
    Respects (Tamed names origin) (Task.log level area message fields) := emit rfl

theorem track (ledger : Ref Ledger) (change : Ref Change) :
    Respects (Tamed names origin) (Ledger.track ledger change) :=
  read (fun _ _ => rfl) fun _ _ => respects_ite (respects_pure ()) <|
    respects_bind (log _ _ _ _) fun _ => aside (fun _ _ => rfl) (fun _ => rfl) fun _ => rfl

end World.Tamed

namespace ChangeManager

variable {names : HarmlessNames} {origin : World}

open World

theorem respects_add (manager : ChangeManager) (name : String) (ref : Ref Change) :
    Respects (Tamed names origin) (manager.add name ref) :=
  (Tamed.carried names origin).add Tamed.track manager name ref

/-- A manager that may not apply changes says so and does nothing. -/
theorem respects_apply {manager : ChangeManager} (forbidden : manager.allowed = false)
    (name targetName : String) (input : Json) :
    Respects (Tamed names origin) (manager.apply name targetName input) := by
  simp only [apply, forbidden, Bool.not_false, ↓reduceIte]
  exact respects_bind (Tamed.log _ _ _ _) fun _ => respects_pure _

theorem respects_revert (manager : ChangeManager) (name : String) :
    Respects (Tamed names origin) (manager.revert name) := by
  unfold revert
  cases manager.changes.get? name with
  | none => exact respects_pure _
  | some ref =>
    refine respects_bind (Tamed.revert ref) fun answer => ?_
    cases answer with
    | ok value => exact respects_pure _
    | error error => exact respects_pure _

theorem respects_revertQuietly (refs : List (Ref Change)) :
    Respects (Tamed names origin) (revertQuietly refs) := by
  induction refs with
  | nil => exact respects_pure []
  | cons ref rest ih =>
    refine respects_bind (Tamed.revert ref) fun answer => ?_
    cases answer with
    | ok value => exact ih
    | error error => exact respects_bind ih fun others => respects_pure _

theorem respects_revertAll (manager : ChangeManager) :
    Respects (Tamed names origin) manager.revertAll :=
  respects_bind (respects_revertQuietly _) fun _ => respects_pure _

theorem yields_add (manager : ChangeManager) (name : String) (ref : Ref Change) :
    Yields (fun after => after.allowed = manager.allowed) (manager.add name ref) := by
  unfold add
  cases manager.ledger with
  | some ledger =>
    exact yields_bind fun _ => yields_ite (yields_bind fun _ => yields_pure rfl) (yields_pure rfl)
  | none => exact yields_ite (yields_bind fun _ => yields_pure rfl) (yields_pure rfl)

theorem yields_apply {manager : ChangeManager} (forbidden : manager.allowed = false)
    (name targetName : String) (input : Json) :
    Yields (fun answer => answer.2.allowed = false) (manager.apply name targetName input) := by
  simp only [apply, forbidden, Bool.not_false, ↓reduceIte]
  exact yields_bind fun _ => yields_pure forbidden

theorem yields_revert (manager : ChangeManager) (name : String) :
    Yields (fun answer => answer.2.allowed = manager.allowed) (manager.revert name) := by
  unfold revert
  cases manager.changes.get? name with
  | none => exact yields_pure rfl
  | some ref =>
    refine yields_bind fun answer => ?_
    cases answer with
    | ok value => exact yields_pure rfl
    | error error => exact yields_pure rfl

theorem yields_revertAll (manager : ChangeManager) :
    Yields (fun answer => answer.2.allowed = manager.allowed) manager.revertAll :=
  yields_bind fun _ => yields_pure rfl

end ChangeManager

namespace StrikeResult

variable {names : HarmlessNames} {origin : World}

open World

theorem respects_executeMovement (result : StrikeResult) (name : String)
    {movement : Task (MovementReport (Ref Change))}
    (inner : Respects (Tamed names origin) movement) :
    Respects (Tamed names origin) (result.executeMovement name movement) :=
  (Tamed.carried names origin).executeMovement Tamed.track result name inner

theorem yields_executeMovement (result : StrikeResult) (name : String)
    (movement : Task (MovementReport (Ref Change))) :
    Yields (fun after => after.invasive = result.invasive) (result.executeMovement name movement) := by
  refine yields_bind fun report => ?_
  cases result.ledger with
  | some ledger => exact yields_bind fun _ => yields_bind fun _ => yields_pure rfl
  | none => exact yields_bind fun _ => yields_pure rfl

theorem withDefaultMessage_invasive (result : StrikeResult) :
    result.withDefaultMessage.invasive = result.invasive := by
  unfold withDefaultMessage
  split <;> rfl

theorem yields_followThrough (result : StrikeResult) :
    Yields (fun after => after.invasive = result.invasive) result.followThrough := by
  refine yields_bind fun failures => yields_pure ?_
  split
  · exact withDefaultMessage_invasive result
  · exact withDefaultMessage_invasive result

end StrikeResult

namespace Watch

variable {names : HarmlessNames} {origin : World}

open World

theorem respects_cleanUp (slot : Ref WatchSlot) (trigger : String) :
    Respects (Tamed names origin) (cleanUp slot trigger) := by
  refine Tamed.read (fun _ _ => rfl) fun world _ => ?_
  cases (world.slots.get slot).watch with
  | none => exact Tamed.log _ _ _ _
  | some watch =>
    exact respects_bind (Tamed.log _ _ _ _) fun _ =>
      respects_bind ((Tamed.carried names origin).revertAll watch.ledger) fun _ =>
        respects_ite (Tamed.log _ _ _ _) (Tamed.log _ _ _ _)

end Watch

namespace Listener

variable {names : HarmlessNames} {origin : World}

open World

theorem respects_stop (listener : Listener) : Respects (Tamed names origin) listener.stop :=
  respects_ite (Tamed.log _ _ _ _) (respects_pure ())

theorem respects_trigger (listener : Listener) (label : String) :
    Respects (Tamed names origin) (listener.trigger label) := by
  refine respects_ite (Tamed.log _ _ _ _) ?_
  refine respects_bind (respects_caught (Watch.respects_cleanUp listener.slot label)) fun answer => ?_
  cases answer with
  | error payload => exact respects_pure ()
  | ok value => exact respects_ite (respects_halt _) (respects_pure ())

end Listener

end Raid
