import Raid.Proofs.Tactic.Matching
import Raid.Vessel.Mobilize

/-!
Two runs over several tactics side by side, of which the one has other strikes in its armory in the
place of those of the other. Where their bodies match, so do the runs: they come to the same summary
and keep the same results.
-/

namespace Raid

open Act

def Armory.mapStrikes (f : Strike → Strike) (armory : Armory) : Armory :=
  ⟨armory.tactics.map (List.map f)⟩

theorem Armory.strikes?_mapStrikes (f : Strike → Strike) (armory : Armory) (name : String) :
    (armory.mapStrikes f).strikes? name = (armory.strikes? name).map (List.map f) :=
  Dict.get?_map (List.map f) armory.tactics name

def Vessel.mapStrikes (f : Strike → Strike) (vessel : Vessel) : Vessel :=
  { vessel with armory := vessel.armory.mapStrikes f
                tactics := vessel.tactics.map (Tactic.mapStrikes f) }

namespace Voyage

def mapStrikes (f : Strike → Strike) (state : Voyage) : Voyage :=
  { state with vessel := state.vessel.mapStrikes f }

/-- Related worlds, and a vessel that runs in both, in the second with other strikes. -/
structure Beside (R : World → World → Prop) (f : Strike → Strike) (vessel : Vessel)
    (first second : Voyage) : Prop where
  world : R first.world second.world
  own : first.vessel = { vessel with tactics := first.vessel.tactics }
  other : second.vessel = first.vessel.mapStrikes f

variable {R : World → World → Prop} {f : Strike → Strike} {vessel : Vessel}

theorem matches_onWorld {α : Type} {task other : Task α} (inner : Matches R task other) :
    Matches (Beside R f vessel) (onWorld task) (onWorld other) := fun first second beside =>
  have ⟨same, world⟩ := inner first.world second.world beside.world
  ⟨same, world, beside.own, beside.other⟩

theorem matches_onVessel {g g' : Vessel → Vessel}
    (kept : ∀ vessel, g vessel = { vessel with tactics := (g vessel).tactics })
    (same : ∀ vessel, g' (vessel.mapStrikes f) = (g vessel).mapStrikes f) :
    Matches (Beside R f vessel) (onVessel g) (onVessel g') := by
  intro first second beside
  refine ⟨rfl, beside.world, ?_, ?_⟩
  · simp only [onVessel, change_apply]
    rw [kept first.vessel, beside.own]
  · simp only [onVessel, change_apply, beside.other, same]

theorem matches_vessel? {α : Type} {next next' : Vessel → Act Voyage α}
    (rest : ∀ tactics, Matches (Beside R f vessel) (next { vessel with tactics := tactics })
      (next' (Vessel.mapStrikes f { vessel with tactics := tactics }))) :
    Matches (Beside R f vessel) (vessel? >>= next) (vessel? >>= next') := by
  intro first second beside
  simp only [bind_apply, vessel?, beside.other]
  rw [beside.own]
  exact rest first.vessel.tactics first second beside

variable (carried : World.Carried R) (named : ∀ strike, (f strike).name = strike.name)
  (writes : ∀ directory service tactic format, Respects R (writeTactic directory service tactic format))

include carried

theorem matches_execute {α : Type} {tactic : Tactic}
    {next next' : Except TacticError Unit × Tactic → Act Voyage α}
    (named : ∀ strike, (f strike).name = strike.name)
    (bodies : ∀ strike ∈ tactic.strikes, ∀ context, context.invasive = tactic.context.invasive →
      Matches R (strike.run context) ((f strike).run context))
    (rest : ∀ answer tactic, Matches (Beside R f vessel) (next (answer, tactic))
      (next' (answer, tactic.mapStrikes f))) :
    Matches (Beside R f vessel) (execute tactic >>= next)
      (execute (tactic.mapStrikes f) >>= next') := by
  intro first second beside
  have executions : Execution.Beside R f ⟨first.world, tactic⟩ ⟨second.world, tactic.mapStrikes f⟩ :=
    ⟨beside.world, rfl⟩
  obtain ⟨outcomes, left⟩ := executions.execute carried named
    fun strike member => bodies strike member _ rfl
  simp only [bind_apply, execute]
  cases run : Execution.execute ⟨first.world, tactic⟩ with
  | mk outcome after =>
    cases run' : Execution.execute ⟨second.world, tactic.mapStrikes f⟩ with
    | mk outcome' after' =>
      rw [run, run'] at outcomes left
      replace left : Execution.Beside R f after after' := left
      cases outcomes
      cases outcome with
      | done answer =>
        simp only [left.tactic]
        exact rest answer after.tactic _ _ ⟨left.world, beside.own, beside.other⟩
      | panicked payload => exact ⟨rfl, left.world, beside.own, beside.other⟩
      | ended ending => exact ⟨rfl, left.world, beside.own, beside.other⟩

include writes

theorem respects_persist (tactic : Tactic) (summary : RunSummary) :
    Respects (Beside R f vessel) (persist tactic summary) := by
  refine matches_vessel? fun _ => matches_bind (matches_onWorld (writes _ _ _ _)) fun written => ?_
  cases written with
  | ok path => exact matches_bind (matches_onWorld (carried.log _ _ _ _)) fun _ => respects_pure _
  | error error =>
    exact matches_bind (matches_onWorld (carried.log _ _ _ _)) fun _ => respects_pure _

include named

theorem matches_runTactic {strikes : List Strike} {context : StrikeContext} (name : String)
    (summary : RunSummary)
    (bodies : ∀ strike ∈ strikes, ∀ own, own.invasive = context.invasive →
      Matches R (strike.run own) ((f strike).run own)) :
    Matches (Beside R f vessel) (runTactic name strikes context summary)
      (runTactic name (strikes.map f) context summary) := by
  refine matches_vessel? fun _ => matches_execute carried named bodies fun answer tactic => ?_
  refine matches_bind (respects_persist carried writes tactic summary) fun posted => ?_
  refine matches_bind (matches_onVessel (fun _ => rfl) fun vessel => ?_) fun _ => respects_pure _
  simp [Vessel.mapStrikes]

theorem respects_runTactics {context : StrikeContext}
    (bodies : ∀ name strikes, vessel.armory.strikes? name = some strikes → ∀ strike ∈ strikes,
      ∀ own, own.invasive = context.invasive → Matches R (strike.run own) ((f strike).run own))
    (asked : List String) (summary : RunSummary) :
    Respects (Beside R f vessel) (runTactics context asked summary) := by
  induction asked generalizing summary with
  | nil => exact respects_pure summary
  | cons name rest ih =>
    refine matches_ite (matches_bind (matches_onWorld (carried.log _ _ _ _)) fun _ => ih _) ?_
    refine matches_vessel? fun tactics => ?_
    rw [Vessel.mapStrikes, Armory.strikes?_mapStrikes]
    dsimp only
    cases known : vessel.armory.strikes? name with
    | none => exact matches_bind (matches_onWorld (carried.log _ _ _ _)) fun _ => ih _
    | some strikes =>
      exact matches_bind (matches_runTactic carried named writes name summary (bodies name strikes known))
        fun summary => ih summary

/-- The strikes of an armory and those in their place, with bodies that match: the runs come to the
same summary, and keep the same results in related worlds. -/
theorem respects_mobilize
    (bodies : ∀ name strikes, vessel.armory.strikes? name = some strikes → ∀ strike ∈ strikes,
      ∀ own, own.invasive = vessel.settings.invasive →
        Matches R (strike.run own) ((f strike).run own)) :
    Respects (Beside R f vessel) mobilize := by
  refine matches_vessel? fun _ => matches_ite (respects_pure _) ?_
  refine matches_bind (matches_onWorld (carried.log _ _ _ _)) fun _ =>
    matches_bind (matches_onWorld carried.newLedger) fun ledger =>
      matches_bind (matches_onVessel (fun _ => rfl) fun _ => rfl) fun _ => ?_
  refine matches_bind (respects_runTactics carried named writes bodies _ _) fun summary => ?_
  exact matches_bind (matches_onWorld (carried.log _ _ _ _)) fun _ => respects_pure _

end Voyage

end Raid
