import Raid.Proofs.Armory.Restoring
import Raid.Proofs.Results.Filing

/-!
A run over the built-in armory leaves the file system as it was. Whatever the settings ask for, and
whatever comes of it, the tree differs from the one before in the files of results and in the
directories made on the way to them alone.
-/

namespace Raid

open Act

namespace Voyage

open DirectoryCheck Execution

/-- The path is that of the results of a tactic that the run asks for and the armory has. -/
def FilesAt (state : Voyage) (path : String) : Prop :=
  ∃ name ∈ state.vessel.settings.tactics, state.vessel.armory.contains name = true ∧
    resultsPath state.vessel.settings.writeDirectory state.vessel.settings.serviceName name
      state.vessel.settings.output = .ok path

def Unused (state : Voyage) (number : Nat) : Prop :=
  ∀ directory, state.vessel.settings.vars.get? targetVar = some directory →
    state.world.files.entryAt?
      (state.world.files.home (Path.join directory (canaryName number))) = none

variable {origin state after : Voyage} {context : StrikeContext}

/-- A file of results is no canary file. So where nothing stood before the run, no file stands until the
canary file is written. -/
theorem unfiled_of_unused {files : FileTree} {number : Nat}
    (builtin : origin.vessel.armory = Armory.directory)
    (left : FileTree.SameBut origin.FilesAt origin.world.files files)
    (unused : origin.Unused number) : Unfiled origin.vessel.settings.vars number files := by
  intro directory var filled content bits here
  rw [FileTree.home_congr left.workingDirectory] at here
  have bare := unused directory var
  cases left.left (origin.world.files.home (Path.join directory (canaryName number))) with
  | same same => simp [same, bare] at here
  | made result place bare directory => simp [directory] at here
  | written result place vacant file =>
    obtain ⟨name, -, known, named⟩ := result
    obtain ⟨strikes, known⟩ := Option.isSome_iff_exists.mp known
    rw [builtin] at known
    obtain ⟨c, first, letter⟩ : ∃ c, name.toList.head? = some c ∧ c ≠ '.' := by
      obtain ⟨rfl, -⟩ | ⟨rfl, -⟩ := Armory.strikes?_directory known
      · exact ⟨'b', by decide +kernel, by decide⟩
      · exact ⟨'i', by decide +kernel, by decide⟩
    exact home_ne_canary named first letter filled number _ place.symm

theorem noted_counts (event : Event) (state : Voyage) :
    World.Counts state.world (state.noted event).world := ⟨rfl, Nat.le_refl _⟩

theorem docked_counts (state : Voyage) (begun : Execution) (event : Event) :
    World.Counts begun.left.world (state.docked begun event).world := by
  obtain ⟨written, -, wrote⟩ := begun.posted_wrote state.vessel.settings
  simp only [docked, noted]
  rw [wrote.eq_files]
  exact ⟨rfl, Nat.le_refl _⟩

theorem begun_counts (state : Voyage) (context : StrikeContext) (name : String)
    (strikes : List Strike) :
    World.Counts state.world (state.begun context name strikes).left.world :=
  @Execution.within_execute _ Footprint.counting_carries (state.begun context name strikes)
    fun strike _ context => strike.within_run Footprint.counting_hosts context (.any _)

theorem runTactics_counts (context : StrikeContext) (names : List String) (summary : RunSummary)
    (state : Voyage) :
    World.Counts state.world (runTactics context names summary state).2.world := by
  induction names generalizing summary state with
  | nil => exact Footprint.counting.refl _
  | cons name rest ih =>
    simp only [runTactics]
    cases halted : summary.badState with
    | true =>
      simp only [↓reduceIte, bind_apply, onWorld_log]
      exact Footprint.counting.trans (noted_counts _ state) (ih _ _)
    | false =>
      simp only [Bool.false_eq_true, ↓reduceIte, bind_apply, vessel?]
      cases known : state.vessel.armory.strikes? name with
      | none =>
        simp only [bind_apply, onWorld_log]
        exact Footprint.counting.trans (noted_counts _ state) (ih _ _)
      | some strikes =>
        simp only [bind_apply]
        have begun := begun_counts state context name strikes
        cases ran : runTactic name strikes context summary state with
        | mk outcome middle =>
          cases runTactic_cases ran with
          | done executed wrote event =>
            exact Footprint.counting.trans begun
              (Footprint.counting.trans (docked_counts state _ event) (ih _ _))
          | panicked executed => exact begun
          | ended executed => exact begun

/-- A state on the way: the vessel has the settings and the armory of the beginning, and the tree is as it
was but for files of results. -/
structure Underway (origin state : Voyage) : Prop where
  settings : state.vessel.settings = origin.vessel.settings
  armory : state.vessel.armory = origin.vessel.armory
  left : FileTree.SameBut origin.FilesAt origin.world.files state.world.files

theorem Underway.noted (underway : Underway origin state) (event : Event) :
    Underway origin (state.noted event) := ⟨underway.settings, underway.armory, underway.left⟩

def UnusedBetween (origin : Voyage) (before after : World) : Prop :=
  ∀ taken, before.identifiersTaken ≤ taken → taken < after.identifiersTaken →
    origin.Unused (before.identifierSeed + taken)

/-- Executing one tactic of the built-in armory and writing its results. -/
theorem Underway.docked {name : String} {strikes : List Strike}
    (underway : Underway origin state) (builtin : origin.vessel.armory = Armory.directory)
    (asked : name ∈ origin.vessel.settings.tactics)
    (known : state.vessel.armory.strikes? name = some strikes)
    (vars : context.vars = origin.vessel.settings.vars)
    (unused : origin.UnusedBetween state.world (state.begun context name strikes).left.world) :
    ∃ answer, (state.begun context name strikes).answered = .done answer ∧
      ∀ event, Underway origin (state.docked (state.begun context name strikes) event) := by
  have own := known
  rw [underway.armory, builtin] at known
  obtain ⟨⟨answer, answered⟩, same⟩ :=
    @Execution.execute_restored (state.begun context name strikes) ⟨rfl, rfl, rfl⟩
      (Armory.body_directory known) fun taken least below => by
        change Unfiled context.vars _ state.world.files
        rw [vars]
        exact unfiled_of_unused builtin underway.left (unused taken least below)
  refine ⟨answer, answered, fun event => ⟨underway.settings, underway.armory, ?_⟩⟩
  obtain ⟨written, -, wrote⟩ :=
    (state.begun context name strikes).posted_wrote state.vessel.settings
  refine (underway.left.trans (.of_same same)).trans (wrote.sameBut fun path named => ?_)
  rw [Execution.name_left rfl answered, underway.settings] at named
  have contained : origin.vessel.armory.contains name = true := by
    rw [builtin]
    exact Option.isSome_iff_exists.mpr ⟨_, known⟩
  exact ⟨name, asked, contained, named⟩

/-- A run over tactics of the built-in armory comes to its end, and the tree is as it was but for files of
results. -/
theorem Underway.runTactics {names : List String} {summary : RunSummary}
    {outcome : Outcome RunSummary} (underway : Underway origin state)
    (builtin : origin.vessel.armory = Armory.directory)
    (asked : ∀ name ∈ names, name ∈ origin.vessel.settings.tactics)
    (vars : context.vars = origin.vessel.settings.vars)
    (run : Voyage.runTactics context names summary state = (outcome, after))
    (unused : origin.UnusedBetween state.world after.world) :
    (∃ told, outcome = .done told) ∧ Underway origin after := by
  induction names generalizing summary state with
  | nil =>
    cases run
    exact ⟨⟨summary, rfl⟩, underway⟩
  | cons name rest ih =>
    obtain ⟨first, asked⟩ := List.forall_mem_cons.mp asked
    simp only [Voyage.runTactics] at run
    cases halted : summary.badState with
    | true =>
      simp only [halted, ↓reduceIte, bind_apply, onWorld_log] at run
      exact ih (underway.noted _) asked run unused
    | false =>
      simp only [halted, Bool.false_eq_true, ↓reduceIte, bind_apply, vessel?] at run
      cases known : state.vessel.armory.strikes? name with
      | none =>
        simp only [known, bind_apply, onWorld_log] at run
        exact ih (underway.noted _) asked run unused
      | some strikes =>
        simp only [known, bind_apply] at run
        have begun := begun_counts state context name strikes
        cases ran : runTactic name strikes context summary state with
        | mk ended middle =>
          rw [ran] at run
          cases runTactic_cases ran with
          | @done answer written executed wrote event =>
            have later := runTactics_counts context rest
              ((summary.posted written).add
                (.ran name answer (state.begun context name strikes).left.tactic written))
              (state.docked (state.begun context name strikes) event)
            replace run : Voyage.runTactics context rest _ _ = (outcome, after) := run
            rw [run] at later
            have docking := docked_counts state (state.begun context name strikes) event
            obtain ⟨-, -, arrived⟩ := underway.docked builtin first known vars
              fun taken least below => unused taken least
                (Nat.lt_of_lt_of_le below (Nat.le_trans docking.taken later.taken))
            refine ih (arrived event) asked run fun taken least below => ?_
            rw [docking.seed.trans begun.seed]
            exact unused taken (Nat.le_trans (Nat.le_trans begun.taken docking.taken) least) below
          | panicked executed =>
            cases run
            obtain ⟨_, answered, -⟩ := underway.docked builtin first known vars unused
            cases executed.symm.trans answered
          | ended executed =>
            cases run
            obtain ⟨_, answered, -⟩ := underway.docked builtin first known vars unused
            cases executed.symm.trans answered

/-- A run over the built-in armory leaves the file system as it was. If nothing stands in the places of
the canary files that it makes, it comes to its end, and whatever comes of its tactics, every file and
directory is as it was with all its permission bits, but for the files of results and the directories
that were made on the way to them. And its strikes are idle where there is no directory to try a change on. -/
theorem mobilize_restores {outcome : Outcome (Except VesselError RunSummary)}
    (builtin : state.vessel.armory = Armory.directory) (run : mobilize state = (outcome, after))
    (unused : state.UnusedBetween state.world after.world) :
    (∃ answer, outcome = .done answer) ∧
    FileTree.SameBut state.FilesAt state.world.files after.world.files ∧
    ∀ name strikes, state.vessel.armory.strikes? name = some strikes →
      ∀ strike ∈ strikes, Execution.IdleUntargeted strike := by
  have idle : ∀ name strikes, state.vessel.armory.strikes? name = some strikes →
      ∀ strike ∈ strikes, Execution.IdleUntargeted strike := by
    intro name strikes known strike member
    rw [builtin] at known
    obtain ⟨check, body⟩ := Armory.body_directory known strike member
    exact Execution.idleUntargeted_directory body
  by_cases asked : state.vessel.settings.tactics = []
  · simp only [mobilize, bind_apply, vessel?, asked, List.isEmpty_nil, ↓reduceIte] at run
    cases run
    exact ⟨⟨_, rfl⟩, .of_same (.refl _), idle⟩
  · rw [mobilize_eq asked] at run
    have begun : Underway state state.departed := ⟨rfl, rfl, .of_same (.refl _)⟩
    cases toured : state.tour with
    | mk ended middle =>
      rw [toured] at run
      have same : after.world.identifiersTaken = middle.world.identifiersTaken := by
        cases ended <;> cases run <;> rfl
      obtain ⟨⟨told, rfl⟩, arrived⟩ := begun.runTactics builtin (fun _ => id) rfl toured
        fun taken least below => unused taken least (same ▸ below)
      cases run
      exact ⟨⟨_, rfl⟩, arrived.left, idle⟩

/-- An invasive run over a directory that its results are written into. -/
def probing : Voyage where
  world := { files := { entries :=
    [(["data"], .directory ⟨0o1775⟩), (["data", "notes"], .file "kept" ⟨0o440⟩)] } }
  vessel := {
    settings := {
      serviceName := "svc", tactics := ["invasive", "baseline"], invasive := true
      writeDirectory := "data/out", output := .json
      vars := .ofList [(targetVar, "data")] }
    armory := .directory
    executed := ⟨0⟩ }

/-- The run makes one canary file, in a place where nothing stands. -/
theorem unused_probing : probing.UnusedBetween probing.world (mobilize probing).2.world := by
  have one : (mobilize probing).2.world.identifiersTaken = 1 := by decide +kernel
  have vars (directory : String) :
      probing.vessel.settings.vars.get? targetVar = some directory → directory = "data" := by
    intro var
    have set : probing.vessel.settings.vars.get? targetVar = some "data" := by decide +kernel
    exact (Option.some.inj (set.symm.trans var)).symm
  have bare : probing.world.files.entryAt? (probing.world.files.home
      (Path.join "data" (canaryName probing.world.identifierSeed))) = none := by decide +kernel
  intro taken least below directory var
  rw [one] at below
  obtain rfl : taken = 0 := Nat.lt_one_iff.mp below
  rw [vars directory var]
  exact bare

/-- All of its tactics pass, and it leaves the results next to the file that was there. -/
theorem mobilize_restores_probing :
    (mobilize probing).1.map (Except.map fun summary =>
      summary.tactics.map fun entry => (entry.outcome, entry.resultsPath)) = .done (.ok
        [(.passed, some "data/out/svc/invasive.json"), (.passed, some "data/out/svc/baseline.json")]) ∧
    (mobilize probing).2.world.files.entryAt? ["data"] = some (.directory ⟨0o1775⟩) ∧
    FileTree.SameBut probing.FilesAt probing.world.files (mobilize probing).2.world.files :=
  ⟨by decide +kernel, by decide +kernel,
    (mobilize_restores rfl (Prod.eta _).symm unused_probing).2.1⟩

end Voyage

end Raid
