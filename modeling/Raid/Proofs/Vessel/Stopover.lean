import Raid.Proofs.Tactic.Stopover
import Raid.Proofs.Vessel.Run

/-!
The tactics of two runs of which the second makes one ledger more. They are asked for by the same
names and of the same armory, and the context that they are run with has another ledger in the second
run. They come to the same summary, the same strikes are executed, and the same results are kept.
-/

namespace Raid

open Act

theorem Stopover.record_tactic {stop : Stopover} {first second : World}
    (abreast : first.Abreast stop second) (own : Ref Ledger) (tactic : Tactic) :
    (stop.tactic own tactic).record second = tactic.record first := by
  have same : (fun ref => (second.change ref).record) = fun ref => (first.change ref).record :=
    funext fun ref => congrArg Change.record (abreast.change ref)
  simp only [Tactic.record, Tactic.reportWith, Stopover.tactic, Dict.map_map, same]
  rfl

theorem Stopover.along_writeTactic {stop : Stopover} {own : Ref Ledger} (directory service : String)
    (tactic : Tactic) (format : OutputFormat) :
    stop.Along id (writeTactic directory service tactic format)
      (writeTactic directory service (stop.tactic own tactic) format) := by
  have name : (stop.tactic own tactic).name = tactic.name := rfl
  simp only [writeTactic, name]
  cases resultsPath directory service tactic.name format with
  | error error => exact parallel_pure rfl
  | ok path =>
    refine along_read (fun _ _ _ _ _ => rfl) fun world =>
      parallel_bind_same (along_setFiles _) fun _ => ?_
    cases (world.files.makeDirectories ((Path.parent? path).getD "")).1 with
    | error cause => exact parallel_pure rfl
    | ok value =>
      refine along_readSame (fun abreast => by rw [record_tactic abreast]) fun made => ?_
      split
      · exact parallel_pure rfl
      · exact parallel_bind_same (along_setFiles _) fun _ =>
          parallel_bind_same (along_log _ _ _ _) fun _ => parallel_pure rfl

def Leg.seen : Leg → List (Strike × Outcome (StrikeReport (Ref Change)))
  | .ran begun => begun.started.map Execution.Start.seen
  | _ => []

namespace Voyage

open Stopover

/-- The worlds are abreast, and so are the tactics that the vessels keep beyond those that they kept
at the beginning. The vessels are the same but for what they are asked for. -/
structure Abreast (stop : Stopover) (own : Ref Ledger) (kept kept' : List Tactic)
    (first second : Voyage) : Prop where
  world : first.world.Abreast stop second.world
  vessel : ∃ asked tactics, second.vessel =
    { first.vessel with settings := { first.vessel.settings with tactics := asked }, tactics }
  tactics : ∃ later, first.vessel.tactics = kept ++ later ∧
    second.vessel.tactics = kept' ++ later.map (stop.tactic own)

def Roomy (stop : Stopover) (state : Voyage) : Prop := stop.Room state.world

variable {stop : Stopover} {own : Ref Ledger} {kept kept' : List Tactic}

abbrev Along (stop : Stopover) (own : Ref Ledger) (kept kept' : List Tactic) {α β : Type}
    (f : α → β) (work : Act Voyage α) (other : Act Voyage β) : Prop :=
  Parallel (Abreast stop own kept kept') (Roomy stop) f work other

variable {α β : Type} {f : α → β}

theorem along_onWorld {task : Task α} {other : Task β} (inner : stop.Along f task other) :
    Along stop own kept kept' f (onWorld task) (onWorld other) where
  roomy state := inner.roomy state.world
  alike first second abreast room :=
    have ⟨same, world⟩ := inner.alike first.world second.world abreast.world room
    ⟨same, { abreast with world := world }⟩

/-- Work that reads the vessel, but not what it was asked for and what it keeps. -/
theorem along_vessel? {next : Vessel → Act Voyage α} {next' : Vessel → Act Voyage β}
    (blind : ∀ vessel asked tactics, next'
      { vessel with settings := { vessel.settings with tactics := asked }, tactics := tactics } =
        next' vessel)
    (rest : ∀ vessel, Along stop own kept kept' f (next vessel) (next' vessel)) :
    Along stop own kept kept' f (vessel? >>= next) (vessel? >>= next') where
  roomy state := (rest state.vessel).roomy state
  alike first second abreast room := by
    obtain ⟨asked, tactics, vessel⟩ := abreast.vessel
    have alike := (rest first.vessel).alike first second abreast room
    rw [← blind first.vessel asked tactics, ← vessel] at alike
    exact alike

theorem along_keep (tactic : Tactic) :
    Along stop own kept kept' id
      (onVessel fun vessel => { vessel with tactics := vessel.tactics ++ [tactic] })
      (onVessel fun vessel =>
        { vessel with tactics := vessel.tactics ++ [stop.tactic own tactic] }) where
  roomy _ := id
  alike first second abreast _ := by
    obtain ⟨asked, tactics, vessel⟩ := abreast.vessel
    obtain ⟨later, here, there⟩ := abreast.tactics
    refine ⟨rfl, abreast.world, ⟨asked, second.vessel.tactics ++ [stop.tactic own tactic], ?_⟩,
      later ++ [tactic], ?_, ?_⟩
    · simp only [onVessel, change_apply]
      rw [vessel]
    · simp only [onVessel, change_apply, here, List.append_assoc]
    · simp only [onVessel, change_apply, there, List.append_assoc, List.map_append,
        List.map_singleton]

theorem along_execute (tactic : Tactic) :
    Along stop own kept kept' (Prod.map id (stop.tactic own)) (execute tactic)
      (execute (stop.tactic own tactic)) where
  roomy state room := by
    have inner : Execution.Along stop own id Execution.execute Execution.execute :=
      Execution.along_execute
    refine inner.roomy ⟨state.world, tactic⟩ ?_
    unfold execute at room
    rcases run : Execution.execute ⟨state.world, tactic⟩ with ⟨answer | payload | ending, after⟩ <;>
      · rw [run] at room
        exact room
  alike first second abreast room := by
    have executions : Execution.Abreast stop own ⟨first.world, tactic⟩
        ⟨second.world, stop.tactic own tactic⟩ := ⟨abreast.world, rfl⟩
    have alike := Execution.along_execute.alike _ _ executions
    unfold execute at room ⊢
    cases run : Execution.execute ⟨first.world, tactic⟩ with
    | mk outcome after =>
      cases run' : Execution.execute ⟨second.world, stop.tactic own tactic⟩ with
      | mk outcome' after' =>
        rw [run, run'] at alike
        rw [run] at room
        have roomy : Execution.Roomy stop after := by
          cases outcome <;> exact room
        obtain ⟨same, left⟩ := alike roomy
        replace left : Execution.Abreast stop own after after' := left
        cases same
        cases outcome with
        | done answer =>
          exact ⟨congrArg (fun tactic => Outcome.done (answer, tactic)) left.tactic,
            { abreast with world := left.world }⟩
        | panicked payload => exact ⟨rfl, { abreast with world := left.world }⟩
        | ended ending => exact ⟨rfl, { abreast with world := left.world }⟩

theorem along_persist (tactic : Tactic) (summary : RunSummary) :
    Along stop own kept kept' id (persist tactic summary)
      (persist (stop.tactic own tactic) summary) := by
  refine along_vessel? (fun _ _ _ => rfl) fun vessel =>
    parallel_bind_same (along_onWorld (along_writeTactic _ _ _ _)) fun written => ?_
  cases written with
  | ok path =>
    exact parallel_bind_same (along_onWorld (along_log _ _ _ _)) fun _ => parallel_pure rfl
  | error error =>
    exact parallel_bind_same (along_onWorld (along_log _ _ _ _)) fun _ => parallel_pure rfl

theorem along_runTactic (name : String) (strikes : List Strike) (context : StrikeContext)
    (summary : RunSummary) :
    Along stop own kept kept' id (runTactic name strikes context summary)
      (runTactic name strikes { context with ledger := own } summary) :=
  along_vessel? (fun _ _ _ => rfl) fun vessel =>
    parallel_bind (along_execute (vessel.tactic context name strikes)) fun executed =>
      parallel_bind_same (along_persist executed.2 summary) fun _ =>
        parallel_bind_same (along_keep executed.2) fun _ => parallel_pure rfl

/-- The tactics of both runs come to the same summary. -/
theorem along_runTactics (context : StrikeContext) (names : List String) (summary : RunSummary) :
    Along stop own kept kept' id (runTactics context names summary)
      (runTactics { context with ledger := own } names summary) := by
  induction names generalizing summary with
  | nil => exact parallel_pure rfl
  | cons name rest ih =>
    refine parallel_ite (parallel_bind_same (along_onWorld (along_log _ _ _ _)) fun _ => ih _) ?_
    refine along_vessel? (fun _ _ _ => rfl) fun vessel => ?_
    cases vessel.armory.strikes? name with
    | none => exact parallel_bind_same (along_onWorld (along_log _ _ _ _)) fun _ => ih _
    | some strikes => exact parallel_bind_same (along_runTactic name strikes context summary) ih

variable {context : StrikeContext} {first second : Voyage}

theorem roomy_of_runTactic {name : String} {strikes : List Strike} {summary : RunSummary}
    (room : Roomy stop (runTactic name strikes context summary first).2) :
    Execution.Roomy stop (first.begun context name strikes).left := by
  have writing (settings : ServiceSettings) (tactic : Tactic) :
      stop.Along id
        (writeTactic settings.writeDirectory settings.serviceName tactic settings.output)
        (writeTactic settings.writeDirectory settings.serviceName
          (stop.tactic tactic.context.ledger tactic) settings.output) :=
    along_writeTactic _ _ _ _
  cases run : runTactic name strikes context summary first with
  | mk outcome after =>
    rw [run] at room
    cases runTactic_cases run with
    | done executed wrote event => exact (writing _ _).roomy _ room
    | panicked executed => exact room
    | ended executed => exact room

theorem Abreast.seen_ran (abreast : Abreast stop own kept kept' first second) {name : String}
    {strikes : List Strike} {summary : RunSummary}
    (room : Roomy stop (runTactic name strikes context summary first).2) :
    (Leg.ran (second.begun { context with ledger := own } name strikes)).seen =
      (Leg.ran (first.begun context name strikes)).seen := by
  obtain ⟨asked, tactics, vessel⟩ := abreast.vessel
  have begun : Execution.Abreast stop own (first.begun context name strikes)
      (second.begun { context with ledger := own } name strikes) := by
    refine ⟨abreast.world, ?_⟩
    simp only [Voyage.begun, vessel]
    rfl
  exact begun.started (roomy_of_runTactic room)

/-- The strikes that the tactics of both runs execute are the same, in the same order. -/
theorem Abreast.seen_legs (abreast : Abreast stop own kept kept' first second) {names : List String}
    {summary : RunSummary} (room : Roomy stop (runTactics context names summary first).2) :
    (legs { context with ledger := own } names summary second).flatMap Leg.seen =
      (legs context names summary first).flatMap Leg.seen := by
  induction names generalizing summary first second with
  | nil => rfl
  | cons name rest ih =>
    have later (summary : RunSummary) :
        Along stop own kept kept' id (runTactics context rest summary)
          (runTactics { context with ledger := own } rest summary) := along_runTactics _ _ _
    have noted {level : LogLevel} {message : String} {summary : RunSummary}
        (room : Roomy stop (runTactics context rest summary
          (onWorld (Task.log level .vessel message [("tactic", .text name)]) first).2).2) :
        Abreast stop own kept kept'
          (onWorld (Task.log level .vessel message [("tactic", .text name)]) first).2
          (onWorld (Task.log level .vessel message [("tactic", .text name)]) second).2 :=
      ((along_onWorld (along_log _ _ _ _)).alike first second abreast
        ((later summary).roomy _ room)).2
    have armory : second.vessel.armory = first.vessel.armory := by
      obtain ⟨asked, tactics, vessel⟩ := abreast.vessel
      rw [vessel]
    rw [runTactics] at room
    simp only [Voyage.legs, armory]
    cases halted : summary.badState with
    | true =>
      simp only [halted, ↓reduceIte] at room ⊢
      exact ih (noted room) room
    | false =>
      simp only [halted, Bool.false_eq_true, ↓reduceIte] at room ⊢
      rw [bind_apply, vessel?] at room
      cases known : first.vessel.armory.strikes? name with
      | none =>
        simp only [known] at room ⊢
        exact ih (noted room) room
      | some strikes =>
        simp only [known] at room ⊢
        have roomy := roomy_of_bind (fun summary => (later summary).roomy) room
        obtain ⟨same, left⟩ := (along_runTactic name strikes context summary).alike first second
          abreast roomy
        rw [List.flatMap_cons, List.flatMap_cons, abreast.seen_ran roomy]
        rw [bind_apply] at room
        cases run : runTactic name strikes context summary first with
        | mk outcome middle =>
          cases run' : runTactic name strikes { context with ledger := own } summary second with
          | mk outcome' middle' =>
            rw [run, run'] at same left
            rw [run] at room
            cases same
            cases outcome with
            | done summary => exact congrArg _ (ih left room)
            | panicked payload => rfl
            | ended ending => rfl

end Voyage

end Raid
