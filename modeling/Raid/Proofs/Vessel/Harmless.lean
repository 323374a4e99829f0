import Raid.Proofs.Script.Substitute
import Raid.Proofs.Vessel.Matching

/-!
A run without permission mutates nothing. Where invasive movements are not permitted, and the bodies
of strikes do not bring a permission of their own, no apply function is called, a revert function at
most of what was due before, and the run is the same whatever stands in the place of the invasive
movements.
-/

namespace Raid

open Act

/-- No strike that the armory holds applies a change outside invasive movements, but through managers
of harmless names. -/
def Armory.Confined (names : HarmlessNames) (armory : Armory) : Prop :=
  ∀ name strikes, armory.strikes? name = some strikes → ∀ strike ∈ strikes,
    strike.body.Confined names

/-- No strike that the armory holds runs an invasive movement on a result that may permit it. -/
def Armory.Powerless (names : HarmlessNames) (armory : Armory) : Prop :=
  ∀ name strikes, armory.strikes? name = some strikes → ∀ strike ∈ strikes,
    strike.body.Powerless names

theorem World.Tamed.writeTactic {names : HarmlessNames} {origin : World}
    (directory service : String) (tactic : Tactic) (format : OutputFormat) :
    Respects (Tamed names origin) (writeTactic directory service tactic format) := by
  unfold Raid.writeTactic
  cases resultsPath directory service tactic.name format with
  | error error => exact respects_pure _
  | ok path =>
    have filed (files : FileTree) : Respects (Tamed names origin) (Task.setFiles files) :=
      aside (fun _ _ => rfl) (fun _ => rfl) fun _ => rfl
    refine read (fun _ _ => by dsimp only) fun world _ => ?_
    cases world.files.makeDirectories ((Path.parent? path).getD "") with
    | mk answer files =>
      refine respects_bind (filed files) fun _ => ?_
      cases answer with
      | error cause => exact respects_pure _
      | ok value =>
        have unread (world : World) (journal : List Event) :
            tactic.record { world with journal := journal } = tactic.record world := rfl
        refine read (fun world journal => by rw [unread]) fun world _ => ?_
        dsimp only
        cases files.write path ((tactic.record world).fileText format) with
        | error cause => exact respects_pure _
        | ok files =>
          exact respects_bind (filed files) fun _ => respects_bind (log _ _ _ _) fun _ =>
            respects_pure _

namespace Voyage

/-- Where invasive movements are not permitted, and no strike brings a permission of its own, a run
calls no apply function, and revert functions of those changes alone that were due when it began.
And whatever is put in the place of the invasive movements, be it movements that would panic or end
the process, or nothing at all, the run comes to the same summary, keeps the same tactics with the
same results, and leaves the same world but for the journal. -/
theorem mobilize_harmless {state : Voyage} {names : HarmlessNames}
    (still : state.vessel.settings.invasive = false) (hold : names.Hold state.world.bench)
    (confined : state.vessel.armory.Confined names)
    (powerless : state.vessel.armory.Powerless names) :
    (∃ calls, Change.Course state.world calls (mobilize state).2.world ∧
      ∀ heard ∈ calls, heard.Withdraws state.world) ∧
    ∀ substitute : Substitute, substitute.Fits names →
      (mobilize (state.mapStrikes substitute.strike)).1 = (mobilize state).1 ∧
      (mobilize (state.mapStrikes substitute.strike)).2.vessel =
        (mobilize state).2.vessel.mapStrikes substitute.strike ∧
      ∃ journal, (mobilize (state.mapStrikes substitute.strike)).2.world =
        { (mobilize state).2.world with journal := journal } := by
  have begun : World.Tamed names state.world state.world state.world :=
    ⟨⟨state.world.journal, rfl⟩, hold, Footprint.withdrawing.refl state.world⟩
  have runs (substitute : Substitute) (fits : substitute.Fits names) :
      (mobilize state).1 = (mobilize (state.mapStrikes substitute.strike)).1 ∧
        Beside (World.Tamed names state.world) substitute.strike state.vessel (mobilize state).2
          (mobilize (state.mapStrikes substitute.strike)).2 := by
    have named (strike : Strike) : (substitute.strike strike).name = strike.name := rfl
    have bodies : ∀ name strikes, state.vessel.armory.strikes? name = some strikes →
        ∀ strike ∈ strikes, ∀ own, own.invasive = state.vessel.settings.invasive →
          Matches (World.Tamed names state.world) (strike.run own)
            ((substitute.strike strike).run own) :=
      fun name strikes known strike member own same =>
        Substitute.matches_run fits (same.trans still) (confined name strikes known strike member)
          (powerless name strikes known strike member)
    have respects := respects_mobilize (World.Tamed.carried names state.world) named
      World.Tamed.writeTactic bodies
    exact respects state (state.mapStrikes substitute.strike) ⟨begun, rfl, rfl⟩
  constructor
  · exact (runs {} (Substitute.fits_none names)).2.world.course
  · intro substitute fits
    obtain ⟨outcome, left⟩ := runs substitute fits
    exact ⟨outcome.symm, left.other, left.world.same⟩

def callsNoted (journal : List Event) : List (Bool × String) :=
  journal.filterMap fun
    | .applyCalled change _ _ => some (true, change)
    | .revertCalled change _ => some (false, change)
    | _ => none

/-- A strike that is not permitted to do what it tries: in a movement on its own result, with a
manager of its context, and in a movement that would panic on a result that it made itself. -/
def patrolling : Strike :=
  ⟨"s", .scripted { steps := [
    .act (.change "c" "c" "d" (some (.scripted [])) (some (.scripted []))),
    .movement { id := none, name := "own", invasive := true, body := [.apply "c" "svc" .null] },
    .act (.managerOfContext "m" "ctx"), .act (.add "m" "c" "c"),
    .act (.managerApply "m" "c" "svc" .null),
    .act (.strikeResult "r" "second" (some "ctx") "" "" none),
    .movement { id := some "r", name := "other", invasive := true, body := [.panic .unreadable] },
    .movement { id := none, name := "mv", plan := { verdict := .pass "fine" } }] }⟩

def running (strike : Strike) : Voyage :=
  { world := {}
    vessel := {
      settings := { serviceName := "svc", tactics := ["t"], writeDirectory := "out" }
      armory := .ofList [("t", [strike])]
      executed := ⟨0⟩ } }

theorem running_strikes {strike : Strike} {name : String} {strikes : List Strike}
    (known : (running strike).vessel.armory.strikes? name = some strikes) :
    strikes = [strike] := by
  cases List.mem_singleton.mp (Armory.mem_of_strikes?_ofList known)
  rfl

def patrolNames : HarmlessNames := { managers := (· = "m"), results := (· = "r") }

theorem mobilize_harmless_patrol :
    (∃ calls, Change.Course (running patrolling).world calls (mobilize (running patrolling)).2.world ∧
      ∀ heard ∈ calls, heard.Withdraws (running patrolling).world) ∧
    (mobilize ((running patrolling).mapStrikes (Substitute.strike {}))).1 =
      (mobilize (running patrolling)).1 ∧
    (mobilize (running patrolling)).2.vessel.tactics.map Tactic.successes = [1] ∧
    callsNoted (mobilize (running patrolling)).2.world.journal = [] := by
  have hold : patrolNames.Hold (running patrolling).world.bench :=
    ⟨fun _ _ => nofun, fun _ _ => nofun, fun _ _ => nofun⟩
  have confined : (running patrolling).vessel.armory.Confined patrolNames := by
    intro name strikes known strike member
    rw [running_strikes known, List.mem_singleton] at member
    subst member
    simp [StrikeBody.Confined, patrolling, Step.Confined, Action.Confined, patrolNames,
      Script.ownName]
  have powerless : (running patrolling).vessel.armory.Powerless patrolNames := by
    intro name strikes known strike member
    rw [running_strikes known, List.mem_singleton] at member
    subst member
    simp [StrikeBody.Powerless, patrolling, Step.Powerless, MovementStep.Powerless, patrolNames]
  obtain ⟨course, same⟩ := @mobilize_harmless (running patrolling) patrolNames rfl hold confined
    powerless
  exact ⟨course, (same {} (Substitute.fits_none patrolNames)).1, by decide +kernel,
    by decide +kernel⟩

/-- A strike that brings a permission of its own: it makes an invasive context, and applies a change
in an invasive movement on a result of this context, before it panics there. -/
def smuggling : Strike :=
  ⟨"s", .scripted { steps := [
    .act (.context "own" "svc" true {}), .act (.strikeResult "r" "second" (some "own") "" "" none),
    .movement { id := some "r", name := "mv", invasive := true, body := [
      .change "c" "c" "d" (some (.scripted [])) (some (.scripted [])), .apply "c" "svc" .null,
      .panic (.text "boom")] }] }⟩

def reverting : Strike := ⟨"s", .scripted { steps := [.act (.revert "c")] }⟩

def inherited : Voyage :=
  { running reverting with
    world := {
      changes := (Table.add {} (Change.afterApply {
        name := "c", description := "d", applier := some (.scripted [])
        reverter := some (.scripted []) } .null)).2
      bench := { changes := .ofList [("c", ⟨0⟩)] } } }

/-- Not permitted to run invasive movements, and with bodies that apply changes in such movements
alone, a run may still call an apply function, where a body brings a permission of its own; and it
may call a revert function, where a change was applied before. -/
theorem mobilize_calls_smuggled :
    ((running smuggling).vessel.settings.invasive = false ∧
      (running smuggling).vessel.armory.Confined {} ∧
      callsNoted (mobilize (running smuggling)).2.world.journal = [(true, "c")]) ∧
    inherited.vessel.settings.invasive = false ∧ inherited.vessel.armory.Confined {} ∧
      callsNoted (mobilize inherited).2.world.journal = [(false, "c")] := by
  have confined {strike : Strike} (own : strike.body.Confined {}) :
      (running strike).vessel.armory.Confined {} := by
    intro name strikes known other member
    rw [running_strikes known, List.mem_singleton] at member
    exact member ▸ own
  refine ⟨⟨rfl, confined ?_, by decide +kernel⟩, rfl, confined ?_, by decide +kernel⟩
  · simp [StrikeBody.Confined, smuggling, Step.Confined, Action.Confined]
  · simp [StrikeBody.Confined, reverting, Step.Confined, Action.Confined]

end Voyage

end Raid
