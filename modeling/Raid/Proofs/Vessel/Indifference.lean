import Raid.Proofs.Armory.Unseeing
import Raid.Proofs.Tactic.Within
import Raid.Proofs.Vessel.Report

/-!
What a run over several tactics reports is the same whichever of its writes fail. Writing results
touches the places on the way to them alone where no directory stands yet; where the bodies of strikes
and the reverts see nothing of these, two runs that differ there come to the same tactics, with the
same outcomes, messages and counts. The checks of the built-in armory see nothing of them when the
results do not lie in the target.
-/

namespace Raid

open Act

namespace FileTree

/-- On the way of the path the region has every place but those of directories. -/
def Covers (region : Region) (tree : FileTree) (path : String) : Prop :=
  ∀ location ∈ tree.trail path,
    region location = true ∨ ∃ bits, tree.entryAt? location = some (.directory bits)

theorem Covers.of_outside {region : Region} {tree : FileTree} {path : String}
    (covers : Covers region (tree.outside region) path) : Covers region tree path := by
  intro location inside
  cases apart : region location with
  | true => exact .inl rfl
  | false =>
    have covered := covers location inside
    rwa [entryAt?_outside apart, apart] at covered

end FileTree

namespace World

variable {region : Region} {sound : FileTree → Table Change → Bench → Prop} {first second : World}

theorem Alike.files (alike : Alike region sound first second) :
    FileTree.Alike region first.files second.files := by
  obtain ⟨alike, fine⟩ := alike
  exact alike

theorem Alike.fine (alike : Alike region sound first second) :
    sound (first.files.outside region) first.changes first.bench := by
  obtain ⟨alike, fine⟩ := alike
  exact fine

theorem Alike.spread {first' second' : FileTree} (journal journal' : List Event)
    (alike : Alike region sound first second) (one : FileTree.Alike region first.files first')
    (other : FileTree.Alike region second.files second') :
    Alike region sound { first with files := first', journal := journal }
      { second with files := second', journal := journal' } := by
  obtain ⟨alike, fine⟩ := alike
  rw [← show first'.outside region = _ from one] at fine
  exact @Alike.of _ _ { first with files := first', journal := journal } _ _
    ((one.symm.trans alike).trans other) fine

end World

namespace Wrote

variable {directory service : String} {tactic : Tactic} {format : OutputFormat}
  {world after : World} {written : Except ResultsError String}

/-- Writing results touches the region alone that covers the way to them. -/
theorem alike {region : Region}
    (wrote : Wrote directory service tactic format world written after)
    (covers : ∀ path, resultsPath directory service tactic.name format = .ok path →
      world.files.Covers region path) :
    FileTree.Alike region world.files after.files := by
  cases wrote with
  | unnamed named => exact .refl region _
  | @uncreated path _ _ named made =>
    have planted := FileTree.makeDirectories_planted world.files path
    rw [made] at planted
    exact .of_planted planted (covers _ named)
  | @unwritten path _ _ named made refused =>
    have planted := FileTree.makeDirectories_planted world.files path
    rw [made] at planted
    exact .of_planted planted (covers _ named)
  | @written path files filled event named made written =>
    have planted := FileTree.makeDirectories_planted world.files path
    rw [made] at planted
    obtain ⟨-, -, bits, rfl, vacant⟩ := FileTree.write_eq written
    have way : files.home path ∈ world.files.trail path := by
      rw [← FileTree.trail_congr planted.workingDirectory]
      exact FileTree.home_mem_trail written
    have inside : region (files.home path) = true := by
      rcases covers path named _ way with inside | ⟨bits, stands⟩
      · exact inside
      · exact absurd (planted.kept stands) (vacant bits)
    exact (FileTree.Alike.of_planted planted (covers path named)).trans
      (FileTree.outside_put_inside inside _)

end Wrote

def TacticSummary.tale (entry : TacticSummary) : TacticSummary := { entry with resultsPath := none }

def RunSummary.tales (summary : RunSummary) : List TacticSummary :=
  summary.tactics.map TacticSummary.tale

structure Voyage.Alike (region : Region) (sound : FileTree → Table Change → Bench → Prop)
    (first second : Voyage) : Prop where
  world : World.Alike region sound first.world second.world
  vessel : first.vessel = second.vessel

/-- The region covers the ways to the files for the results of these tactics, and neither the bodies
of their strikes, when they are run in the context, nor the reverts see anything of it. -/
structure Voyage.Unseen (region : Region) (sound : FileTree → Table Change → Bench → Prop)
    (context : StrikeContext) (names : List String) (vessel : Vessel) : Prop where
  covers : ∀ files changes bench, sound files changes bench → ∀ name ∈ names, ∀ path,
    resultsPath vessel.settings.writeDirectory vessel.settings.serviceName name
      vessel.settings.output = .ok path → files.Covers region path
  bodies : ∀ name ∈ names, ∀ strikes, vessel.armory.strikes? name = some strikes →
    ∀ strike ∈ strikes, ∀ ledger,
      Respects (World.Alike region sound) (strike.run { context with ledger := ledger })
  reverts : ∀ ref, Respects (World.Alike region sound) (Change.revert ref)

namespace Voyage

variable {region : Region} {sound : FileTree → Table Change → Bench → Prop}
  {context : StrikeContext} {name : String} {names : List String} {first second : Voyage}
  {vessel later : Vessel}

theorem Unseen.of_same (unseen : Unseen region sound context names vessel)
    (settings : later.settings = vessel.settings) (armory : later.armory = vessel.armory) :
    Unseen region sound context names later where
  covers := settings ▸ unseen.covers
  bodies := armory ▸ unseen.bodies
  reverts := unseen.reverts

theorem Unseen.tail (unseen : Unseen region sound context (name :: names) vessel) :
    Unseen region sound context names vessel where
  covers files changes bench fine :=
    (List.forall_mem_cons.mp (unseen.covers files changes bench fine)).2
  bodies := (List.forall_mem_cons.mp unseen.bodies).2
  reverts := unseen.reverts

theorem Alike.noted (alike : Alike region sound first second) (event event' : Event) :
    Alike region sound (first.noted event) (second.noted event') :=
  ⟨alike.world.spread _ _ (.refl region _) (.refl region _), alike.vessel⟩

theorem Alike.begun (alike : Alike region sound first second) (context : StrikeContext)
    (name : String) (strikes : List Strike) :
    Execution.Alike region sound (first.begun context name strikes)
      (second.begun context name strikes) :=
  ⟨alike.world, by rw [Voyage.begun, Voyage.begun, alike.vessel]⟩

end Voyage

theorem Execution.Alike.left {region : Region} {sound : FileTree → Table Change → Bench → Prop}
    {first second : Execution} (alike : Alike region sound first second)
    (reverts : ∀ ref, Respects (World.Alike region sound) (Change.revert ref))
    (bodies : ∀ strike ∈ first.tactic.strikes,
      Respects (World.Alike region sound) (strike.run first.ownContext)) :
    first.answered = second.answered ∧ Alike region sound first.left second.left :=
  alike.execute reverts bodies

namespace Voyage

variable {region : Region} {sound : FileTree → Table Change → Bench → Prop} {context : StrikeContext}
  {name : String} {strikes : List Strike} {names : List String} {first second : Voyage}

/-- The executions that begin in alike states come to the same answer and leave alike states. -/
theorem Alike.answered (alike : Alike region sound first second)
    (unseen : Unseen region sound context (name :: names) first.vessel)
    (known : first.vessel.armory.strikes? name = some strikes) :
    (first.begun context name strikes).answered = (second.begun context name strikes).answered ∧
      Execution.Alike region sound (first.begun context name strikes).left
        (second.begun context name strikes).left :=
  (alike.begun context name strikes).left unseen.reverts fun strike member =>
    unseen.bodies name List.mem_cons_self strikes known strike member _

theorem Alike.docked (alike : Alike region sound first second) (event event' : Event)
    (unseen : Unseen region sound context (name :: names) first.vessel)
    (known : first.vessel.armory.strikes? name = some strikes) {answer : Except TacticError Unit}
    (executed : (first.begun context name strikes).answered = .done answer) :
    Alike region sound (first.docked (first.begun context name strikes) event)
      (second.docked (second.begun context name strikes) event') := by
  obtain ⟨-, left⟩ := alike.answered unseen known
  have named := Execution.name_left rfl executed
  have vessel := alike.vessel
  have world := left.world
  have covers := unseen.covers _ _ _ world.fine name List.mem_cons_self
  obtain ⟨written, -, wrote⟩ :=
    (first.begun context name strikes).posted_wrote first.vessel.settings
  obtain ⟨written', -, wrote'⟩ :=
    (second.begun context name strikes).posted_wrote second.vessel.settings
  have one : FileTree.Alike region _ _ := wrote.alike fun path at_path => by
    rw [named] at at_path
    exact .of_outside (covers path at_path)
  have other : FileTree.Alike region _ _ := wrote'.alike fun path at_path => by
    rw [← left.tactic, named, ← vessel] at at_path
    refine .of_outside ?_
    rw [show _ = _ from world.files]
    exact covers path at_path
  refine ⟨?_, ?_⟩
  · simp only [Voyage.docked, Voyage.noted]
    rw [wrote.eq_files, wrote'.eq_files]
    exact world.spread _ _ one other
  · simp only [Voyage.docked, Voyage.noted, left.tactic, vessel]

theorem badState_of_tales {told told' : RunSummary} (same : told.tales = told'.tales) :
    told.badState = told'.badState := by
  have seen (summary : RunSummary) :
      summary.badState = summary.tales.any fun tale => tale.outcome = .badState := by
    rw [RunSummary.badState, RunSummary.tales, List.any_map]
    rfl
  rw [seen, seen, same]

theorem tales_add {told told' : RunSummary} (same : told.tales = told'.tales)
    {entry entry' : TacticSummary} (tale : entry.tale = entry'.tale) :
    (told.add entry).tales = (told'.add entry').tales := by
  simp only [RunSummary.tales, RunSummary.add, List.map_append, List.map_cons, List.map_nil, tale]
  rw [show told.tactics.map TacticSummary.tale = told'.tactics.map TacticSummary.tale from same]

theorem tales_posted (summary : RunSummary) (written : Except ResultsError String) :
    (summary.posted written).tales = summary.tales := by
  rw [RunSummary.tales, RunSummary.tactics_posted, RunSummary.tales]

theorem tales_runTactics {told told' : RunSummary} (alike : Alike region sound first second)
    (unseen : Unseen region sound context names first.vessel) (same : told.tales = told'.tales) :
    (runTactics context names told first).1.map RunSummary.tales =
      (runTactics context names told' second).1.map RunSummary.tales := by
  induction names generalizing first second told told' with
  | nil => exact congrArg Outcome.done same
  | cons name rest ih =>
    simp only [runTactics, ← badState_of_tales same]
    cases told.badState with
    | true =>
      simp only [↓reduceIte, bind_apply, onWorld_log]
      exact ih (alike.noted _ _) (unseen.tail.of_same rfl rfl) (tales_add same rfl)
    | false =>
      simp only [Bool.false_eq_true, ↓reduceIte, bind_apply, vessel?, ← alike.vessel]
      cases known : first.vessel.armory.strikes? name with
      | none =>
        simp only [bind_apply, onWorld_log]
        exact ih (alike.noted _ _) (unseen.tail.of_same rfl rfl) (tales_add same rfl)
      | some strikes =>
        simp only [bind_apply]
        obtain ⟨answered, left⟩ := alike.answered unseen known
        cases run : runTactic name strikes context told first with
        | mk outcome after =>
          cases run' : runTactic name strikes context told' second with
          | mk outcome' after' =>
            -- Both executions come to the same answer, so that the other six cases are void.
            rcases runTactic_cases run with ⟨executed, wrote, event⟩ | executed | executed <;>
              rcases runTactic_cases run' with ⟨executed', wrote', event'⟩ | executed' | executed' <;>
                cases executed.symm.trans (answered.trans executed')
            · refine ih (alike.docked event event' unseen known executed)
                (unseen.tail.of_same rfl rfl) (tales_add ?_ ?_)
              · rw [tales_posted, tales_posted, same]
              · rw [left.tactic]
                rfl
            · rfl
            · rfl

theorem Alike.departed (alike : Alike region sound first second) :
    Alike region sound first.departed second.departed := by
  obtain ⟨world, vessel⟩ := first
  obtain ⟨world', vessel'⟩ := second
  obtain ⟨⟨alike, fine⟩, rfl⟩ := alike
  exact ⟨.of alike fine, rfl⟩

theorem Alike.ownContext (alike : Alike region sound first second) :
    first.ownContext = second.ownContext := by
  obtain ⟨world, vessel⟩ := first
  obtain ⟨world', vessel'⟩ := second
  obtain ⟨⟨alike, fine⟩, rfl⟩ := alike
  rfl

/-- Whichever of the writes fail, a run tells the same tales. -/
theorem tales_mobilize (alike : Alike region sound first second)
    (unseen : Unseen region sound first.ownContext first.vessel.settings.tactics first.vessel) :
    (mobilize first).1.map (Except.map RunSummary.tales) =
      (mobilize second).1.map (Except.map RunSummary.tales) := by
  by_cases asked : first.vessel.settings.tactics = []
  · simp [mobilize, bind_apply, vessel?, ← alike.vessel, asked, pure_apply]
  have tales : first.tour.1.map RunSummary.tales = second.tour.1.map RunSummary.tales := by
    rw [tour, tour, ← alike.ownContext, ← alike.vessel]
    exact tales_runTactics alike.departed (unseen.of_same rfl rfl) rfl
  have seen (outcome : Outcome RunSummary) :
      (outcome.map Except.ok : Outcome (Except VesselError RunSummary)).map
          (Except.map RunSummary.tales) =
        (outcome.map RunSummary.tales).map Except.ok := by
    cases outcome <;> rfl
  rw [mobilize_outcome asked, mobilize_outcome (alike.vessel ▸ asked), seen, seen, tales]

theorem ComesToEnd.map {α β : Type} {legs : List Leg} {outcome : Outcome α}
    (ends : ComesToEnd legs outcome) (f : α → β) : ComesToEnd legs (outcome.map f) := by
  rcases ends with ⟨value, rfl⟩ | ⟨ending, rfl, last⟩
  · exact .inl ⟨f value, rfl⟩
  · exact .inr ⟨ending, rfl, last⟩

theorem Reported.noted {before after : Voyage} {summary : RunSummary}
    (reported : Reported before summary after) (event : Event) :
    Reported before summary (after.noted event) where
  __ := reported
  still i entry begun here leg bad := by
    simp only [Voyage.noted]
    rw [reported.still i entry begun here leg bad]

/-- A run over the tactics that the settings ask for, where no revert function panics. It comes to
a summary, unless the body of a strike ends the process, and the summary tells of every tactic what
became of it. The outcomes, messages and counts are the same in a world with other files on the way
to the results, where other writes fail, if bodies and reverts see nothing of these files. -/
theorem mobilize_reported {state : Voyage} (asked : state.vessel.settings.tactics ≠ [])
    (returns : state.world.RevertsReturn) (gentle : state.vessel.armory.RevertsReturn) :
    ComesToEnd state.ownLegs (mobilize state).1 ∧
    (∀ answer after, mobilize state = (.done answer, after) →
      ∃ summary, answer = .ok summary ∧ Reported state summary after) ∧
    ∀ region sound other, World.Alike region sound state.world other →
      Unseen region sound state.ownContext state.vessel.settings.tactics state.vessel →
      (mobilize state).1.map (Except.map RunSummary.tales) =
        (mobilize { state with world := other }).1.map (Except.map RunSummary.tales) := by
  refine ⟨?_, fun answer after run => ?_, fun region sound other alike unseen => ?_⟩
  · rw [mobilize_outcome asked]
    exact (runTactics_returns _ _ _ state.departed returns gentle).map _
  · obtain ⟨summary, middle, toured, rfl, rfl⟩ := mobilize_done asked run
    exact ⟨summary, rfl, (tour_reported toured).noted _⟩
  · exact tales_mobilize ⟨alike, rfl⟩ unseen

/-- The built-in armory does not see a region that has nothing of the target, if the region covers the
ways to the results but for directories that stand there. -/
theorem unseen_directory {vessel : Vessel} {home : Location} {standing : Location → Prop}
    (builtin : vessel.armory = .directory)
    (spared : DirectoryCheck.Spared region home context.vars)
    (covers : ∀ name ∈ names, ∀ path,
      resultsPath vessel.settings.writeDirectory vessel.settings.serviceName name
        vessel.settings.output = .ok path →
      ∀ location ∈ ({ workingDirectory := home } : FileTree).trail path,
        region location = true ∨ standing location) :
    Unseen region (DirectoryCheck.Sound region home standing) context names vessel where
  covers files changes bench sound name member path named location inside := by
    rw [@FileTree.trail_congr { workingDirectory := home } files sound.workingDirectory] at inside
    exact (covers name member path named location inside).imp_right (sound.stands location)
  bodies name member strikes known strike own ledger := by
    rw [builtin] at known
    obtain ⟨check, body⟩ := Armory.body_directory known strike own
    have given : DirectoryCheck.Spared region home { context with ledger := ledger }.vars := spared
    rw [Strike.run, body]
    exact check.beside_run given
  reverts := Change.beside_revert

theorem revertsReturn_directory : Armory.directory.RevertsReturn := by
  intro name strikes known strike member change made function undo
  obtain ⟨check, body⟩ := Armory.body_directory known strike member
  rw [body] at made
  rcases made with ⟨name, content, rfl⟩ | rfl <;> cases undo <;> trivial

/-- An invasive run over the built-in armory, and over a tactic that it does not have. The results lie
next to the target. -/
def drill : Voyage where
  world := { files := { entries :=
    [(["work"], .directory .newDirectory), (["work", "data"], .directory .newDirectory)] } }
  vessel := {
    settings := {
      serviceName := "svc", tactics := ["invasive", "nope", "baseline"], invasive := true
      writeDirectory := "work/out", vars := .ofList [(DirectoryCheck.targetVar, "work/data")] }
    armory := .directory
    executed := ⟨0⟩ }

def obstructed : World :=
  { drill.world with files := drill.world.files.put ["work", "out"] (.file "" .newFile) }

def drillResults : Region := fun location => ["work", "out"].isPrefixOf location

theorem unseen_drill : Unseen drillResults (DirectoryCheck.Sound drillResults [] (· = ["work"]))
    drill.ownContext drill.vessel.settings.tactics drill.vessel := by
  refine unseen_directory rfl ?_ ?_
  · intro directory var filled
    have set : drill.ownContext.vars.get? DirectoryCheck.targetVar = some "work/data" := by
      decide +kernel
    obtain rfl := Option.some.inj (set.symm.trans var)
    have home : ({ workingDirectory := [] } : FileTree).home "work/data" = ["work", "data"] := by
      decide +kernel
    refine ⟨fun _ => by decide +kernel, fun child some within => ?_⟩
    rw [home] at within
    have whole := List.dropLast_append_getLast some
    rw [within] at whole
    rw [← whole]
    rfl
  · have each : ∀ name ∈ drill.vessel.settings.tactics, ∀ path ∈
        (resultsPath drill.vessel.settings.writeDirectory drill.vessel.settings.serviceName name
          drill.vessel.settings.output).toOption,
        ∀ location ∈ ({ workingDirectory := [] } : FileTree).trail path,
          drillResults location = true ∨ location = ["work"] := by
      decide +kernel
    intro name member path named
    exact each name member path (by simp [named, Except.toOption])

theorem mobilize_reported_drill :
    ∃ summary after, mobilize drill = (.done (.ok summary), after) ∧
      Reported drill summary after ∧ summary.persistFailures = [] ∧
      ∃ summary' after', mobilize { drill with world := obstructed } =
        (.done (.ok summary'), after') ∧ summary'.persistFailures ≠ [] ∧
          summary'.tales = summary.tales := by
  have returns : drill.world.RevertsReturn := by
    intro ref function undo
    cases undo
  have fine : (mobilize drill).1.map (Except.map fun summary => summary.persistFailures) =
      .done (.ok []) := by decide +kernel
  have short : (mobilize { drill with world := obstructed }).1.map
      (Except.map fun summary => summary.persistFailures.isEmpty) = .done (.ok false) := by
    decide +kernel
  obtain ⟨-, reported, same⟩ :=
    @mobilize_reported drill (by decide) returns revertsReturn_directory
  have alike : World.Alike drillResults (DirectoryCheck.Sound drillResults [] (· = ["work"]))
      drill.world obstructed := by
    refine .of (FileTree.outside_put_inside rfl _) ⟨rfl, ?_, fun ref => ?_⟩
    · rintro _ rfl
      exact ⟨_, rfl⟩
    · refine ⟨fun _ same => ?_, fun _ _ same => ?_, fun _ named => ?_⟩
      · cases same
      · cases same
      · cases named
  replace same := same _ _ obstructed alike unseen_drill
  obtain ⟨summary, after, run, unfailing⟩ := Outcome.exists_of_map_eq_ok fine
  obtain ⟨summary', after', run', failing⟩ := Outcome.exists_of_map_eq_ok short
  rw [run, run'] at same
  simp only [Outcome.map, Except.map, Outcome.done.injEq, Except.ok.injEq] at same
  obtain ⟨told, answer, holds⟩ := reported _ _ run
  obtain rfl := Except.ok.inj answer
  refine ⟨summary, after, run, holds, unfailing, summary', after', run', ?_, same.symm⟩
  simpa using failing

end Voyage

end Raid
