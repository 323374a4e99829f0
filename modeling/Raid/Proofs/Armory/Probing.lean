import Raid.Proofs.Armory.Canary
import Raid.Proofs.Change.Course
import Raid.Proofs.Change.Reversing
import Raid.Proofs.Strike.Pausing
import Raid.Proofs.Tactic.Settling
import Raid.Proofs.Tactic.Within

/-!
What the built-in checks of a directory do to the files. A probe makes one change, and whatever comes of
applying it, reverting it brings back the files as they were. So the tree is the same once the strike is
followed through, and where there is no directory to look at nothing is ever changed.
-/

namespace Raid

open Act

theorem Armory.strikes?_directory {name : String} {strikes : List Strike}
    (known : directory.strikes? name = some strikes) :
    name = "baseline" ∧ strikes = [targetPresent, targetListable] ∨
      name = "invasive" ∧ strikes = [targetPresent, canaryWrite, canaryPermissions] := by
  have among := mem_of_strikes?_ofList known
  simpa using among

theorem Armory.body_directory {name : String} {strikes : List Strike}
    (known : directory.strikes? name = some strikes) :
    ∀ strike ∈ strikes, ∃ check, strike.body = .directory check := by
  obtain ⟨-, rfl⟩ | ⟨-, rfl⟩ := strikes?_directory known <;>
    simp [targetPresent, targetListable, canaryWrite, canaryPermissions]

namespace World

structure Counts (before after : World) : Prop where
  seed : after.identifierSeed = before.identifierSeed
  taken : before.identifiersTaken ≤ after.identifiersTaken

/-- Nothing was done but to write in the journal and to register changes of a kind. -/
structure Registered (kind : Ref Change → Prop) (before after : World) : Prop where
  files : after.files = before.files
  changes : after.changes = before.changes
  counts : Counts before after
  ledger : ∀ own, ∀ ref ∈ (after.ledger own).changes, ref ∈ (before.ledger own).changes ∨ kind ref

theorem Counts.of_surroundings {before after : World}
    (same : after.surroundings = before.surroundings) : Counts before after := by
  have counts : Counts before.surroundings after.surroundings := by
    rw [same]
    exact ⟨rfl, Nat.le_refl _⟩
  exact ⟨counts.seed, counts.taken⟩

end World

namespace Footprint

def counting : Footprint World where
  allows := World.Counts
  refl _ := ⟨rfl, Nat.le_refl _⟩
  trans begun ended :=
    ⟨ended.seed.trans begun.seed, Nat.le_trans begun.taken ended.taken⟩

def registering (kind : Ref Change → Prop) : Footprint World where
  allows := World.Registered kind
  refl world := ⟨rfl, rfl, Footprint.counting.refl world, fun _ _ => .inl⟩
  trans begun ended := by
    refine ⟨ended.files.trans begun.files, ended.changes.trans begun.changes,
      Footprint.counting.trans begun.counts ended.counts, fun own ref member => ?_⟩
    rcases ended.ledger own ref member with earlier | kind
    · exact begun.ledger own ref earlier
    · exact .inr kind

theorem counting_hosts : Footprint.counting.Hosts {} where
  emit _ _ := fun _ => ⟨rfl, Nat.le_refl _⟩
  newChange _ _ := fun _ => ⟨rfl, Nat.le_refl _⟩
  apply ref targetName input := fun world =>
    .of_surroundings (Change.apply_surroundings ref targetName input world)
  revert ref := fun world => .of_surroundings (Change.within_revert ref world).surroundings
  newLedger := fun _ => ⟨rfl, Nat.le_refl _⟩
  track ledger change := fun world => by
    simp only [Ledger.track, bind_apply, read_apply]
    split <;> exact ⟨rfl, Nat.le_refl _⟩
  newExecuted _ := fun _ => ⟨rfl, Nat.le_refl _⟩
  recordExecuted _ _ _ := fun _ => ⟨rfl, Nat.le_refl _⟩
  newSlot := fun _ => ⟨rfl, Nat.le_refl _⟩
  setSlot _ _ _ := fun _ => ⟨rfl, Nat.le_refl _⟩
  onBench _ := fun _ => ⟨rfl, Nat.le_refl _⟩
  files _ _ _ := ⟨rfl, Nat.le_refl _⟩
  freshIdentifier := fun _ => ⟨rfl, Nat.le_succ _⟩

theorem counting_carries : Footprint.counting.Carries where
  emit := counting_hosts.emit
  revert := counting_hosts.revert
  newLedger := counting_hosts.newLedger
  recordExecuted := counting_hosts.recordExecuted trivial
  slots _ _ _ := ⟨rfl, Nat.le_refl _⟩

end Footprint

section

variable {kind : Ref Change → Prop}

theorem Task.within_emit_registering (event : Event) :
    Within (.registering kind) (Task.emit event) :=
  fun _ => ⟨rfl, rfl, ⟨rfl, Nat.le_refl _⟩, fun _ _ => .inl⟩

theorem Ledger.within_track_registering (ledger : Ref Ledger) {change : Ref Change}
    (own : kind change) : Within (.registering kind) (track ledger change) := by
  intro world
  simp only [track, bind_apply, read_apply]
  split
  · exact Footprint.refl _ world
  · refine ⟨rfl, rfl, ⟨rfl, Nat.le_refl _⟩, fun other ref member => ?_⟩
    change ref ∈ ((world.ledgers.set ledger ⟨_⟩).get other).changes at member
    rw [Table.get_set] at member
    split at member
    · rename_i same
      subst same
      rcases List.mem_append.mp member with earlier | new
      · exact .inl earlier
      · exact .inr (List.mem_singleton.mp new ▸ own)
    · exact .inl member

theorem Ledger.within_trackEach_registering (ledger : Ref Ledger) {changes : List (Ref Change)}
    (own : ∀ change ∈ changes, kind change) :
    Within (.registering kind) (trackEach ledger changes) := by
  induction changes with
  | nil => exact within_pure ()
  | cons change rest ih =>
    obtain ⟨first, own⟩ := List.forall_mem_cons.mp own
    exact within_bind (within_track_registering ledger first) fun _ => ih own

theorem ChangeManager.within_add_registering (manager : ChangeManager) (name : String)
    {ref : Ref Change} (own : kind ref) : Within (.registering kind) (manager.add name ref) := by
  simp only [add]
  cases manager.ledger with
  | none =>
    exact within_ite (within_bind (Task.within_emit_registering _) fun _ => within_pure _)
      (within_pure _)
  | some ledger =>
    exact within_bind (Ledger.within_track_registering ledger own) fun _ =>
      within_ite (within_bind (Task.within_emit_registering _) fun _ => within_pure _)
        (within_pure _)

/-- A manager that may apply changes applies the one of a name, and keeps its changes. -/
theorem ChangeManager.apply_registers {manager : ChangeManager} {name service : String}
    {input : Json} {ref : Ref Change} {world after : World} {answer : Except ChangeError Json}
    (allowed : manager.allowed = true) (held : manager.changes.get? name = some ref)
    (run : Change.apply ref service input world = (.done answer, after)) :
    ∃ applied kept later, manager.apply name service input world = (.done (applied, kept), later) ∧
      kept.changes = manager.changes ∧ World.Registered kind after later := by
  simp only [apply, allowed, Bool.not_true, Bool.false_eq_true, ↓reduceIte, held, bind_apply, run]
  cases answer with
  | ok target =>
    exact ⟨some target, manager, after, rfl, rfl, (Footprint.registering kind).refl after⟩
  | error error => exact ⟨none, _, _, rfl, rfl, Task.within_emit_registering _ after⟩

/-- A movement that comes to its end is folded in, and its changes are registered. -/
theorem StrikeResult.executeMovement_registers {result : StrikeResult} {name : String}
    {movement : Task (MovementReport (Ref Change))} {report : MovementReport (Ref Change)}
    {world middle : World} (moved : movement world = (.done report, middle))
    (own : ∀ ref ∈ report.changes.values, kind ref) :
    ∃ after, result.executeMovement name movement world = (.done (result.withReport
        (result.report.record name { report with functionName := name })), after) ∧
      World.Registered kind middle after := by
  simp only [executeMovement, bind_apply, moved]
  cases result.ledger with
  | none => exact ⟨_, rfl, Task.within_emit_registering _ middle⟩
  | some ledger =>
    have first := Ledger.trackEach_done ledger report.changes.values middle
    have registered := Ledger.within_trackEach_registering ledger own middle
    simp only [bind_apply]
    generalize Ledger.trackEach ledger report.changes.values middle = tracked at first registered ⊢
    obtain ⟨outcome, later⟩ := tracked
    cases first
    exact ⟨_, rfl, Footprint.trans _ registered (Task.within_emit_registering _ later)⟩

end

/-- The change of a probe was tried: it can be reverted, and the other changes are as they were. -/
structure World.Probed (ref : Ref Change) (before after : World) : Prop where
  reversible : Change.Reversible before.files after.files (after.change ref)
  others : ∀ other, other ≠ ref → after.change other = before.change other
  ledger : ∀ own, ∀ other ∈ (after.ledger own).changes,
    other ∈ (before.ledger own).changes ∨ other = ref

theorem World.Probed.between {ref : Ref Change} {first before after last : World}
    (begun : Registered (· = ref) first before) (probed : Probed ref before after)
    (ended : Registered (· = ref) after last) : Probed ref first last where
  reversible := by
    rw [ended.files, World.change, ended.changes, ← begun.files]
    exact probed.reversible
  others other different := by
    rw [World.change, ended.changes, World.change, ← begun.changes]
    exact probed.others other different
  ledger own other member := by
    rcases ended.ledger own other member with earlier | same
    · rcases probed.ledger own other earlier with earlier | same
      · exact begun.ledger own other earlier
      · exact .inr same
    · exact .inr same

theorem World.Probed.of_new {change : Change} {world after : World} {taken : Nat}
    (probed : Probed (world.changes.add change).1
      { world with changes := (world.changes.add change).2, identifiersTaken := taken } after) :
    Probed (world.changes.add change).1 world after where
  reversible := probed.reversible
  others other different :=
    (probed.others other different).trans
      (Table.get_add_of_ne _ _ fun same => different (Ref.eq_iff.mpr same))
  ledger := probed.ledger

namespace DirectoryCheck

def Unfiled (vars : Dict String) (number : Nat) (files : FileTree) : Prop :=
  ∀ directory, vars.get? targetVar = some directory → directory ≠ "" → ∀ content bits,
    files.entryAt? (files.home (Path.join directory (canaryName number))) ≠ some (.file content bits)

/-- No file stands in the places of the canary files that are made between two worlds. -/
def UnfiledBetween (vars : Dict String) (before after : World) (files : FileTree) : Prop :=
  ∀ taken, before.identifiersTaken ≤ taken → taken < after.identifiersTaken →
    Unfiled vars (before.identifierSeed + taken) files

theorem existingTarget_eq_ok {files : FileTree} {context : StrikeContext} {directory : String} :
    existingTarget files context = .ok directory ↔
      context.vars.get? targetVar = some directory ∧ files.isDirectory directory = true := by
  unfold existingTarget target
  cases context.vars.get? targetVar with
  | none => simp
  | some path =>
    simp only [Option.some.injEq]
    split
    · rename_i found
      simp only [Except.ok.injEq]
      exact ⟨fun same => ⟨same, same ▸ found⟩, fun both => both.1⟩
    · rename_i missing
      simp only [reduceCtorEq, false_iff, not_and]
      rintro rfl
      exact missing

theorem filled_of_existing {files : FileTree} {context : StrikeContext} {directory : String}
    (there : existingTarget files context = .ok directory) : directory ≠ "" := by
  rintro rfl
  obtain ⟨located, -⟩ := FileTree.isDirectory_iff.mp (existingTarget_eq_ok.mp there).2
  simp [FileTree.locate] at located

end DirectoryCheck

namespace Probe

open DirectoryCheck

variable {context : StrikeContext} {directory : String} {world after : World} {probe : Probe}

theorem changes_verdict (files : FileTree) (applied : Option Json) :
    (probe.verdict context directory files applied).changes = {} := by
  cases probe <;> cases applied <;> simp only [verdict, canaryVerdict, readonlyVerdict] <;>
    (try split) <;> (try split) <;> rfl

def Made (directory : String) (ref : Ref Change) (world : World) : Probe → Prop
  | canaryFile => ∃ number content,
      world.change ref = DirectoryCheck.canaryFile (canaryName number) content ∧
        ∀ old bits, world.files.entryAt? (world.files.home
          (Path.join directory (canaryName number))) ≠ some (.file old bits)
  | readonlyFlag => world.change ref = DirectoryCheck.readonlyFlag

variable {ref : Ref Change}

theorem Made.registered {kind : Ref Change → Prop} (made : probe.Made directory ref world)
    (registered : World.Registered kind world after) : probe.Made directory ref after := by
  cases probe <;> simpa only [Made, World.change, registered.changes, registered.files] using made

theorem Made.apply (made : probe.Made directory ref world) (service : String) :
    ∃ answer after, Change.apply ref service (.object [("dir", .text directory)]) world =
      (.done answer, after) ∧ World.Probed ref world after := by
  obtain ⟨answer, after, run, reversible⟩ : ∃ answer after,
      Change.apply ref service (.object [("dir", .text directory)]) world = (.done answer, after) ∧
        Change.Reversible world.files after.files (after.change ref) := by
    cases probe with
    | canaryFile =>
      obtain ⟨number, content, fresh, unfiled⟩ := made
      exact Change.apply_of_tried (by rw [fresh]; rfl) (by rw [fresh]; rfl) (by rw [fresh]; rfl)
        (by rw [fresh]; rfl) (Change.tried_writeFile fresh unfiled service)
    | readonlyFlag =>
      have fresh : world.change ref = DirectoryCheck.readonlyFlag := made
      exact Change.apply_of_tried (by rw [fresh]; rfl) (by rw [fresh]; rfl) (by rw [fresh]; rfl)
        (by rw [fresh]; rfl) (Change.tried_markReadonly fresh service)
  refine ⟨answer, after, run, reversible, fun other different => ?_, fun own other member => ?_⟩
  · have kept := ((Change.Operation.apply service (.object [("dir", .text directory)])).others
      world different).2.2
    rwa [Change.Operation.after, run] at kept
  · have same := Change.apply_surroundings ref service (.object [("dir", .text directory)]) world
    rw [run] at same
    rw [World.ledger_of_surroundings same] at member
    exact .inl member

theorem Made.attempt (made : probe.Made directory ref world) (permitted : context.invasive = true) :
    ∃ report after, probe.attempt context directory ref world = (.done report, after) ∧
      report.changes.values = [ref] ∧ World.Probed ref world after := by
  have added := context.changeManager.add_done probe.changeName ref world
  have registered :=
    @ChangeManager.within_add_registering (· = ref) context.changeManager probe.changeName ref rfl world
  simp only [Probe.attempt, bind_apply]
  generalize context.changeManager.add probe.changeName ref world = adding at added registered ⊢
  obtain ⟨outcome, middle⟩ := adding
  cases added
  obtain ⟨answer, after, run, probed⟩ := (made.registered registered).apply context.service
  obtain ⟨applied, kept, later, managed, changes, noted⟩ :=
    @ChangeManager.apply_registers (· = ref) { context.changeManager with
      changes := context.changeManager.changes.insert probe.changeName ref } probe.changeName
      context.service _ ref middle after answer permitted (Dict.get?_insert_self _ _ _) run
  simp only [Probe.apply, bind_apply, managed, conclude, read_apply]
  refine ⟨_, later, rfl, ?_, ?_⟩
  · rw [changes, MovementReport.withChanges, changes_verdict]
    rfl
  · exact probed.between registered noted

theorem movement_probed {context : StrikeContext} {probe : Probe} {world after : World}
    {directory : String} {outcome : Outcome DirectoryCheck.Movement}
    (there : existingTarget world.files context = .ok directory)
    (permitted : context.invasive = true) (run : probe.movement context world = (outcome, after))
    (unfiled : UnfiledBetween context.vars world after world.files) :
    ∃ report ref, outcome = .done report ∧ report.changes.values = [ref] ∧
      World.Probed ref world after := by
  obtain ⟨var, found⟩ := existingTarget_eq_ok.mp there
  have filled := filled_of_existing there
  rw [probe.movement_eq there] at run
  cases probe with
  | canaryFile =>
    let change := DirectoryCheck.canaryFile
      (canaryName (world.identifierSeed + world.identifiersTaken)) (canaryContent context)
    let middle : World := { world with
      changes := (world.changes.add change).2, identifiersTaken := world.identifiersTaken + 1 }
    replace run : canaryFile.attempt context directory (world.changes.add change).1 middle =
      (outcome, after) := run
    have counts : World.Counts middle after :=
      (within_attempt Footprint.counting_hosts _ _).of_run run
    have made : canaryFile.Made directory (world.changes.add change).1 middle :=
      ⟨_, _, Table.get_add_self _ _,
        unfiled _ (Nat.le_refl _) counts.taken directory var filled⟩
    obtain ⟨report, after', run', single, probed⟩ := made.attempt permitted
    cases run.symm.trans run'
    exact ⟨report, _, rfl, single, probed.of_new⟩
  | readonlyFlag =>
    let middle : World := { world with
      changes := (world.changes.add DirectoryCheck.readonlyFlag).2 }
    replace run : readonlyFlag.attempt context directory
      (world.changes.add DirectoryCheck.readonlyFlag).1 middle = (outcome, after) := run
    have made : readonlyFlag.Made directory (world.changes.add DirectoryCheck.readonlyFlag).1
        middle := Table.get_add_self _ _
    obtain ⟨report, after', run', single, probed⟩ := made.attempt permitted
    cases run.symm.trans run'
    exact ⟨report, _, rfl, single, probed.of_new⟩

end Probe

namespace DirectoryCheck

variable {context : StrikeContext} {check : DirectoryCheck} {world after : World}

theorem look_eq (look : Look) (context : StrikeContext) (world : World) :
    ∃ report, look.movement context world = (.done report, world) ∧ report.changes.values = [] := by
  cases look <;>
    simp only [Look.movement, checkIsDirectory, listEntries, readPermissions] <;>
    cases target context <;> dsimp only <;> (try split) <;> exact ⟨_, rfl, rfl⟩

theorem executeMovement_idle {result : StrikeResult} {name : String} {movement : Task Movement}
    {report : Movement} {middle : World} (calm : result.report.badStateAlert = false)
    (none : result.report.changes = []) (moved : movement world = (.done report, middle))
    (idle : report.changes.values = []) :
    ∃ kept after, result.executeMovement name movement world = (.done kept, after) ∧
      kept.invasive = result.invasive ∧ kept.report.badStateAlert = false ∧
      kept.report.changes = [] ∧ World.Registered (fun _ => False) middle after := by
  obtain ⟨after, run, registered⟩ := @StrikeResult.executeMovement_registers (fun _ => False)
    result name _ report world middle moved (by simp [idle])
  refine ⟨_, after, run, rfl, calm, List.eq_nil_iff_forall_not_mem.mpr fun ref member => ?_,
    registered⟩
  rcases StrikeResult.mem_changes_record member with earlier | own
  · simp [none] at earlier
  · simp [idle] at own

theorem opening_eq (check : DirectoryCheck) (context : StrikeContext) (world : World) :
    ∃ result after, check.opening context world = (.done result, after) ∧
      result.invasive = context.invasive ∧ result.report.badStateAlert = false ∧
      result.report.changes = [] ∧ World.Registered (fun _ => False) world after := by
  obtain ⟨report, looked, idle⟩ := look_eq check.look context world
  have fresh : (context.strikeResult check.description).report.changes = [] := rfl
  exact executeMovement_idle rfl fresh looked idle

/-- How the body of a check comes out: it has looked, or it has tried a change. -/
inductive Ran (world : World) : StrikeResult → World → Prop
  | looked {result : StrikeResult} {after : World} (calm : result.report.badStateAlert = false)
    (none : result.report.changes = []) (registered : World.Registered (fun _ => False) world after) :
    Ran world result after
  | probed {result : StrikeResult} {after : World} {ref : Ref Change}
    (single : ∀ other, other ∈ result.report.changes ↔ other = ref)
    (probed : World.Probed ref world after) : Ran world result after

/-- A probe of a directory that is there, run as a movement of a result without changes. -/
theorem executeMovement_probed {result : StrikeResult} {probe : Probe} {directory : String}
    {outcome : Outcome StrikeResult} (none : result.report.changes = [])
    (there : existingTarget world.files context = .ok directory)
    (permitted : context.invasive = true)
    (run : result.executeMovement probe.name (probe.movement context) world = (outcome, after))
    (unfiled : UnfiledBetween context.vars world after world.files) :
    ∃ kept ref, outcome = .done kept ∧ (∀ other, other ∈ kept.report.changes ↔ other = ref) ∧
      World.Probed ref world after := by
  cases moved : probe.movement context world with
  | mk ended inner =>
    have counts : World.Counts inner after := by
      cases ended with
      | done report =>
        obtain ⟨after', run', registered⟩ := @StrikeResult.executeMovement_registers
          (fun _ => True) result probe.name _ report world inner moved fun _ _ => trivial
        cases run.symm.trans run'
        exact registered.counts
      | panicked payload =>
        simp only [StrikeResult.executeMovement, bind_apply, moved] at run
        cases run
        exact Footprint.counting.refl _
      | ended ending =>
        simp only [StrikeResult.executeMovement, bind_apply, moved] at run
        cases run
        exact Footprint.counting.refl _
    obtain ⟨report, ref, rfl, single, probed⟩ := Probe.movement_probed there permitted moved
      fun taken least below => unfiled taken least (Nat.lt_of_lt_of_le below counts.taken)
    obtain ⟨after', run', registered⟩ := @StrikeResult.executeMovement_registers
      (· = ref) result probe.name _ report world inner moved (by simp [single])
    cases run.symm.trans run'
    refine ⟨_, ref, rfl, fun other => ⟨fun member => ?_, fun same => ?_⟩,
      probed.between ((Footprint.registering _).refl world) registered⟩
    · rcases StrikeResult.mem_changes_record member with earlier | own
      · simp [none] at earlier
      · simpa [single] using own
    · exact StrikeResult.mem_changes_record_self (by simp [single, same])

/-- Without a directory to try a change on, what comes after the look changes nothing. -/
theorem closing_looked {result : StrikeResult} {message : String}
    (calm : result.report.badStateAlert = false) (none : result.report.changes = [])
    (missing : existingTarget world.files context = .error message) (check : DirectoryCheck) :
    ∃ kept after, check.closing context result world = (.done kept, after) ∧
      kept.report.badStateAlert = false ∧ kept.report.changes = [] ∧
      World.Registered (fun _ => False) world after := by
  unfold closing
  cases check.probe with
  | none => exact ⟨result, world, rfl, calm, none, (Footprint.registering _).refl world⟩
  | some probe =>
    simp only [StrikeResult.executeInvasiveMovement]
    split
    · have idle : probe.movement context world =
          (.done ({ description := probe.description : Movement }.fail message), world) := by
        simp only [Probe.movement, bind_apply, read_apply, missing]
        rfl
      obtain ⟨kept, after, run, -, kept'⟩ :=
        @executeMovement_idle world result probe.name _ _ world calm none idle rfl
      exact ⟨kept, after, run, kept'⟩
    · exact ⟨result, _, rfl, calm, none, Task.within_emit_registering _ world⟩

theorem run_looked {message : String}
    (missing : existingTarget world.files context = .error message) (check : DirectoryCheck) :
    ∃ result after, check.run context world = (.done result, after) ∧
      result.report.badStateAlert = false ∧ result.report.changes = [] ∧
      World.Registered (fun _ => False) world after := by
  obtain ⟨first, middle, opened, -, calm, none, registered⟩ := check.opening_eq context world
  rw [← registered.files] at missing
  obtain ⟨result, after, closed, calm, none, later⟩ := closing_looked calm none missing check
  refine ⟨result, after, ?_, calm, none, (Footprint.registering _).trans registered later⟩
  simp only [DirectoryCheck.run, bind_apply, opened, closed]

theorem run_ran {outcome : Outcome StrikeResult} (run : check.run context world = (outcome, after))
    (unfiled : UnfiledBetween context.vars world after world.files) :
    ∃ result, outcome = .done result ∧ Ran world result after := by
  cases there : existingTarget world.files context with
  | error message =>
    obtain ⟨result, after', run', calm, none, registered⟩ := run_looked there check
    cases run.symm.trans run'
    exact ⟨result, rfl, .looked calm none registered⟩
  | ok directory =>
    obtain ⟨result, middle, opened, permission, calm, none, registered⟩ :=
      check.opening_eq context world
    simp only [DirectoryCheck.run, bind_apply, opened, closing] at run
    cases probes : check.probe with
    | none =>
      simp only [probes] at run
      cases run
      exact ⟨result, rfl, .looked calm none registered⟩
    | some probe =>
      simp only [probes, StrikeResult.executeInvasiveMovement] at run
      split at run
      · rename_i permitted
        have counts := registered.counts
        have here : existingTarget middle.files context = .ok directory := registered.files ▸ there
        obtain ⟨kept, ref, rfl, single, probed⟩ := executeMovement_probed none here
          (permission ▸ permitted) run fun taken least below => by
            rw [counts.seed, registered.files]
            exact unfiled taken (Nat.le_trans counts.taken least) below
        have silent : World.Registered (· = ref) world middle :=
          ⟨registered.files, registered.changes, counts, fun own other member =>
            .inl ((registered.ledger own other member).resolve_right id)⟩
        exact ⟨kept, rfl, .probed single
          (probed.between silent ((Footprint.registering _).refl after))⟩
      · cases run
        exact ⟨result, rfl, .looked calm none
          ((Footprint.registering _).trans registered (Task.within_emit_registering _ middle))⟩

end DirectoryCheck

end Raid
