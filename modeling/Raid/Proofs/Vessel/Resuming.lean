import Raid.Proofs.Vessel.Report
import Raid.Proofs.Vessel.Stopover

/-!
Resuming a run. A run over some tactics and then, in a new vessel with the same list of executed
strikes, a run over others come to the same as one run over all of them. In the world the two make one
ledger more, which nothing uses but the run that makes it.
-/

namespace Raid

open Act

namespace Act

variable {σ α : Type}

instance : LawfulMonad (Act σ) :=
  LawfulMonad.mk' _
    (fun work => funext fun state => by
      change (work >>= pure) state = _
      rw [bind_apply]
      rcases work state with ⟨value | payload | ending, after⟩ <;> rfl)
    (fun _ _ => rfl)
    (fun work next last => funext fun state => by
      simp only [bind_apply]
      rcases work state with ⟨value | payload | ending, after⟩ <;> rfl)

theorem parallel_rfl (work : Act σ α) : Parallel Eq (fun _ => True) id work work where
  roomy _ := id
  alike first second same _ := by
    subst same
    exact ⟨(Outcome.map_id _).symm, rfl⟩

end Act

namespace RunSummary

def joined (first second : RunSummary) : RunSummary :=
  { first with
    tactics := first.tactics ++ second.tactics
    persisted := first.persisted ++ second.persisted
    persistFailures := first.persistFailures ++ second.persistFailures }

theorem joined_empty (summary : RunSummary) (service : String) :
    summary.joined { serviceName := service } = summary := by
  simp [joined]

theorem badState_joined {told : RunSummary} (calm : told.badState = false) (summary : RunSummary) :
    (told.joined summary).badState = summary.badState := by
  rw [badState] at calm
  simp [badState, joined, calm]

theorem joined_add (told summary : RunSummary) (entry : TacticSummary) :
    (told.joined summary).add entry = told.joined (summary.add entry) := by
  simp [joined, add]

end RunSummary

namespace Voyage

variable {told : RunSummary}

/-- What is said of the tactics before has no say in what is said of further ones. -/
theorem parallel_persist (tactic : Tactic) (summary : RunSummary) :
    Parallel Eq (fun _ => True) (Prod.map id told.joined) (persist tactic summary)
      (persist tactic (told.joined summary)) := by
  refine parallel_bind_same (parallel_rfl _) fun vessel =>
    parallel_bind_same (parallel_rfl _) fun written => ?_
  cases written with
  | ok path =>
    exact parallel_bind_same (parallel_rfl _) fun _ => parallel_pure (by simp [RunSummary.joined])
  | error error =>
    exact parallel_bind_same (parallel_rfl _) fun _ => parallel_pure (by simp [RunSummary.joined])

theorem parallel_runTactic (name : String) (strikes : List Strike) (context : StrikeContext)
    (summary : RunSummary) :
    Parallel Eq (fun _ => True) told.joined (runTactic name strikes context summary)
      (runTactic name strikes context (told.joined summary)) :=
  parallel_bind_same (parallel_rfl _) fun _ =>
    parallel_bind_same (parallel_rfl _) fun executed =>
      parallel_bind (parallel_persist executed.2 summary) fun _ =>
        parallel_bind_same (parallel_rfl _) fun _ => parallel_pure (RunSummary.joined_add _ _ _)

theorem runTactic_joined (name : String) (strikes : List Strike) (context : StrikeContext)
    (summary : RunSummary) (state : Voyage) :
    runTactic name strikes context (told.joined summary) state =
      ((runTactic name strikes context summary state).1.map told.joined,
        (runTactic name strikes context summary state).2) :=
  have ⟨outcome, after⟩ :=
    (parallel_runTactic name strikes context summary).alike state state rfl trivial
  Prod.ext outcome after.symm

theorem runTactics_joined (calm : told.badState = false) (context : StrikeContext)
    (names : List String) (summary : RunSummary) (state : Voyage) :
    runTactics context names (told.joined summary) state =
      ((runTactics context names summary state).1.map told.joined,
        (runTactics context names summary state).2) := by
  have alike (names : List String) (summary : RunSummary) :
      Parallel Eq (fun _ => True) told.joined (runTactics context names summary)
        (runTactics context names (told.joined summary)) := by
    induction names generalizing summary with
    | nil => exact parallel_pure rfl
    | cons name rest ih =>
      simp only [runTactics, RunSummary.badState_joined calm, RunSummary.joined_add]
      refine parallel_ite (parallel_bind_same (parallel_rfl _) fun _ => ih _) ?_
      refine parallel_bind_same (parallel_rfl _) fun vessel => ?_
      cases vessel.armory.strikes? name with
      | none => exact parallel_bind_same (parallel_rfl _) fun _ => ih _
      | some strikes => exact parallel_bind (parallel_runTactic name strikes context summary) ih
  obtain ⟨outcome, after⟩ := (alike names summary).alike state state rfl trivial
  exact Prod.ext outcome after.symm

theorem legs_joined (calm : told.badState = false) (context : StrikeContext)
    (names : List String) (summary : RunSummary) (state : Voyage) :
    legs context names (told.joined summary) state = legs context names summary state := by
  induction names generalizing summary state with
  | nil => rfl
  | cons name rest ih =>
    simp only [legs, RunSummary.badState_joined calm, RunSummary.joined_add, ih, runTactic_joined]
    split
    · rfl
    · cases state.vessel.armory.strikes? name with
      | none => rfl
      | some strikes =>
        dsimp only
        cases runTactic name strikes context summary state with
        | mk outcome after =>
          cases outcome with
          | done summary => exact congrArg _ (ih summary after)
          | panicked payload => rfl
          | ended ending => rfl

theorem runTactics_append (context : StrikeContext) (first second : List String)
    (summary : RunSummary) :
    runTactics context (first ++ second) summary =
      runTactics context first summary >>= runTactics context second := by
  induction first generalizing summary with
  | nil => rfl
  | cons name rest ih =>
    simp only [List.cons_append, runTactics, ih]
    split
    · rw [bind_assoc]
    · rw [bind_assoc]
      refine congrArg _ (funext fun vessel => ?_)
      cases vessel.armory.strikes? name with
      | none => simp only [bind_assoc]
      | some strikes => simp only [bind_assoc]

theorem legs_append (context : StrikeContext) (first second : List String) (summary : RunSummary)
    (state : Voyage) :
    legs context (first ++ second) summary state = legs context first summary state ++
      match runTactics context first summary state with
      | (.done summary, after) => legs context second summary after
      | _ => [] := by
  induction first generalizing summary state with
  | nil => rfl
  | cons name rest ih =>
    simp only [List.cons_append, legs, runTactics, ih]
    split
    · rfl
    · simp only [bind_apply, vessel?]
      cases state.vessel.armory.strikes? name with
      | none => rfl
      | some strikes =>
        dsimp only
        rw [bind_apply]
        cases runTactic name strikes context summary state with
        | mk outcome after => cases outcome <;> rfl

variable {context : StrikeContext} {first : List String} {summary : RunSummary}
  {state middle : Voyage}
  (run : runTactics context first summary state = (.done told, middle))
  (calm : told.badState = false)

include run calm

theorem runTactics_after (second : List String) (service : String) :
    runTactics context (first ++ second) summary state =
      ((runTactics context second { serviceName := service } middle).1.map told.joined,
        (runTactics context second { serviceName := service } middle).2) := by
  rw [runTactics_append, bind_apply, run, ← runTactics_joined calm, told.joined_empty]

theorem legs_after (second : List String) (service : String) :
    legs context (first ++ second) summary state = legs context first summary state ++
      legs context second { serviceName := service } middle := by
  rw [legs_append, run, ← legs_joined calm context second { serviceName := service },
    told.joined_empty]

end Voyage

structure World.LedgersMade (world : World) : Prop where
  ledgers : ∀ ref ∈ world.bench.ledgers.values, ref.index < world.ledgers.size
  contexts : ∀ context ∈ world.bench.contexts.values, context.ledger.index < world.ledgers.size
  managers : ∀ manager ∈ world.bench.managers.values, ∀ ref ∈ manager.ledger,
    ref.index < world.ledgers.size
  results : ∀ result ∈ world.bench.results.values, ∀ ref ∈ result.ledger,
    ref.index < world.ledgers.size
  watches : ∀ slot, ∀ watch ∈ (world.slots.get slot).watch,
    watch.ledger.index < world.ledgers.size
  unmade : ∀ ref : Ref Ledger, world.ledgers.size ≤ ref.index → world.ledger ref = {}

namespace World.LedgersMade

variable {world : World} (made : world.LedgersMade)

include made

theorem newLedger : { world with ledgers := (world.ledgers.add {}).2 }.LedgersMade where
  ledgers ref held := Nat.lt_succ_of_lt (made.ledgers ref held)
  contexts context held := Nat.lt_succ_of_lt (made.contexts context held)
  managers manager held ref own := Nat.lt_succ_of_lt (made.managers manager held ref own)
  results result held ref own := Nat.lt_succ_of_lt (made.results result held ref own)
  watches slot watch held := Nat.lt_succ_of_lt (made.watches slot watch held)
  unmade ref beyond := by
    have beyond : world.ledgers.size + 1 ≤ ref.index := beyond
    exact (Table.get_add_of_ne _ _ (by omega)).trans (made.unmade ref (by omega))

theorem abreast {stop : Stopover} (ahead : stop.past = false)
    (room : world.ledgers.size ≤ stop.place) :
    { world with journal := stop.journal }.Abreast stop
      { world with journal := stop.journal' } := by
  have still {ref : Ref Ledger} (held : ref.index < world.ledgers.size) : stop.ledger ref = ref :=
    if_pos (Nat.lt_of_lt_of_le held room)
  have own {held : Option (Ref Ledger)} (all : ∀ ref ∈ held, ref.index < world.ledgers.size) :
      held.map stop.ledger = held := by
    cases held with
    | none => rfl
    | some ref => exact congrArg some (still (all ref rfl))
  have ledgers (ref : Ref Ledger) : world.ledger (stop.ledger ref) = world.ledger ref := by
    by_cases held : ref.index < world.ledgers.size
    · rw [still held]
    · have beyond : world.ledgers.size ≤ (stop.ledger ref).index := by
        unfold Stopover.ledger
        split
        · omega
        · exact Nat.le_succ_of_le (Nat.le_of_not_lt held)
      rw [made.unmade _ beyond, made.unmade ref (Nat.le_of_not_lt held)]
  have slots (ref : Ref WatchSlot) : world.slots.get ref = stop.slot (world.slots.get ref) := by
    have held := made.watches ref
    generalize world.slots.get ref = slot at held ⊢
    obtain ⟨watch⟩ := slot
    cases watch with
    | none => rfl
    | some watch =>
      simp only [Stopover.slot, Option.map_some, Stopover.watch, still (held watch rfl)]
  have bench : world.bench = stop.bench world.bench := by
    have managers : world.bench.managers.map stop.manager = world.bench.managers :=
      Dict.map_eq_self.mpr fun manager held => by
        rw [Stopover.manager, own (made.managers manager held)]
    have refs : world.bench.ledgers.map stop.ledger = world.bench.ledgers :=
      Dict.map_eq_self.mpr fun ref held => still (made.ledgers ref held)
    have contexts : world.bench.contexts.map stop.context = world.bench.contexts :=
      Dict.map_eq_self.mpr fun context held => by
        rw [Stopover.context, still (made.contexts context held)]
    have results : world.bench.results.map stop.result = world.bench.results :=
      Dict.map_eq_self.mpr fun result held => by rw [Stopover.result, own (made.results result held)]
    rw [Stopover.bench, managers, refs, contexts, results]
  exact {
    same := ⟨_, _, _, _, rfl⟩
    size := by simp [Stopover.extra, ahead]
    behind := by simp [ahead]
    ledgers := ledgers
    slotsMade := rfl
    slots := slots
    bench := bench
    journals := ⟨[], (List.append_nil _).symm, (List.append_nil _).symm⟩ }

end World.LedgersMade

def Stopover.gone (stop : Stopover) (journal journal' : List Event) : Stopover :=
  { stop with past := true, journal, journal' }

/-- The stopover: from worlds that are abreast when it is ahead, the second run makes its ledger. -/
theorem World.Abreast.passed {stop : Stopover} {first second : World}
    (abreast : first.Abreast stop second) (ahead : stop.past = false)
    (here : stop.place = first.ledgers.size) (journal : List Event) :
    first.Abreast (stop.gone first.journal journal)
      { second with ledgers := (second.ledgers.add {}).2, journal := journal } := by
  have size : second.ledgers.size = first.ledgers.size := by
    rw [abreast.size, Stopover.extra, if_neg (by simp [ahead]), Nat.add_zero]
  have ledgers (ref : Ref Ledger) : (second.ledgers.add {}).2.get (stop.ledger ref) =
      first.ledger ref := by
    have other : (stop.ledger ref).index ≠ second.ledgers.size := by
      rw [size, ← here, Stopover.ledger]
      split
      · omega
      · dsimp only
        omega
    rw [Table.get_add_of_ne _ _ other]
    exact abreast.ledgers ref
  have bench := abreast.bench
  have slots := abreast.slots
  have slotsMade := abreast.slotsMade
  obtain ⟨_, made, _, _, rfl⟩ := abreast.same
  exact {
    same := ⟨_, made, _, _, rfl⟩
    size := congrArg (· + 1) size
    behind := fun _ => Nat.le_of_eq here
    ledgers := ledgers
    slotsMade := slotsMade
    slots := slots
    bench := bench
    journals := ⟨[], (List.append_nil _).symm, (List.append_nil _).symm⟩ }

def Voyage.asking (state : Voyage) (names : List String) : Voyage :=
  { state with vessel := { state.vessel with
      settings := { state.vessel.settings with tactics := names }, tactics := [] } }

namespace Voyage

def strikesSeen (state : Voyage) : List (Strike × Outcome (StrikeReport (Ref Change))) :=
  state.ownLegs.flatMap Leg.seen

def executedNames (state : Voyage) : List String :=
  (state.world.executed.get state.vessel.executed).names

/-- What a run over some tactics has in common with a run over the first of them, which comes to a
summary, and one over the others after it. -/
structure Resumed (whole first second : Voyage) (told : RunSummary) : Prop where
  answer : (mobilize whole).1 = (mobilize second).1.map (Except.map told.joined)
  strikes : whole.strikesSeen = first.strikesSeen ++ second.strikesSeen
  names : (mobilize whole).2.executedNames = (mobilize second).2.executedNames
  changes : (mobilize whole).2.world.changes = (mobilize second).2.world.changes
  files : (mobilize whole).2.world.files = (mobilize second).2.world.files
  records : (mobilize whole).2.vessel.tactics.map (Tactic.record (mobilize whole).2.world) =
    ((mobilize first).2.vessel.tactics ++ (mobilize second).2.vessel.tactics).map
      (Tactic.record (mobilize second).2.world)
  events : ∃ early late, first.tour.2.world.journal = first.departed.world.journal ++ early ∧
    second.tour.2.world.journal = second.departed.world.journal ++ late ∧
    whole.tour.2.world.journal = whole.departed.world.journal ++ early ++ late

theorem mobilize_left {state : Voyage} (asked : state.vessel.settings.tactics ≠ []) :
    ∃ journal, (mobilize state).2 =
      { state.tour.2 with world := { state.tour.2.world with journal := journal } } := by
  rw [mobilize_eq asked]
  rcases state.tour with ⟨summary | payload | ending, after⟩
  · exact ⟨_, rfl⟩
  · exact ⟨_, rfl⟩
  · exact ⟨_, rfl⟩

def outset (start : Voyage) (whole first : List String) (place : Nat) : Stopover :=
  { place, past := false, journal := (start.asking whole).departed.world.journal
    journal' := (start.asking first).departed.world.journal }

theorem abreast_outset {start : Voyage} (made : start.world.LedgersMade) (whole first : List String)
    {place : Nat} (room : start.world.ledgers.size + 1 ≤ place) :
    Abreast (start.outset whole first place) (start.world.ledgers.add {}).1 [] []
      (start.asking whole).departed (start.asking first).departed where
  world := made.newLedger.abreast rfl room
  vessel := ⟨first, [], rfl⟩
  tactics := ⟨[], rfl, rfl⟩

theorem Abreast.again {stop : Stopover} {own : Ref Ledger} {kept kept' : List Tactic}
    {first second : Voyage} (abreast : Abreast stop own kept kept' first second)
    (ahead : stop.past = false) (here : stop.place = first.world.ledgers.size) (event : Event)
    (names : List String) :
    Abreast
      (stop.gone first.world.journal ((second.noted event).asking names).departed.world.journal)
      (second.world.ledgers.add {}).1 first.vessel.tactics []
      first ((second.noted event).asking names).departed := by
  obtain ⟨asked, tactics, vessel⟩ := abreast.vessel
  refine ⟨abreast.world.passed ahead here _, ⟨names, [], ?_⟩, [], (List.append_nil _).symm, rfl⟩
  simp only [asking, departed, noted, vessel]

theorem Abreast.executedNames {stop : Stopover} {own : Ref Ledger} {kept kept' : List Tactic}
    {first second : Voyage} (abreast : Abreast stop own kept kept' first second) :
    second.executedNames = first.executedNames := by
  obtain ⟨asked, tactics, vessel⟩ := abreast.vessel
  rw [Voyage.executedNames, Voyage.executedNames, abreast.world.executed, vessel]

theorem Abreast.records {stop : Stopover} {own other : Ref Ledger} {kept kept' : List Tactic}
    {first second : Voyage} (abreast : Abreast stop own kept [] first second)
    (before : ∃ early, kept = [] ++ early ∧ kept' = [] ++ early.map (stop.tactic other)) :
    first.vessel.tactics.map (Tactic.record first.world) =
      (kept' ++ second.vessel.tactics).map (Tactic.record second.world) := by
  have same (own : Ref Ledger) (tactics : List Tactic) :
      (tactics.map (stop.tactic own)).map (Tactic.record second.world) =
        tactics.map (Tactic.record first.world) := by
    rw [List.map_map]
    exact List.map_congr_left fun tactic _ => Stopover.record_tactic abreast.world own tactic
  obtain ⟨early, rfl, rfl⟩ := before
  obtain ⟨later, here, there⟩ := abreast.tactics
  simp only [here, there, List.nil_append, List.map_append, same]

def reached (start : Voyage) (whole first : List String) : Outcome RunSummary × Voyage :=
  runTactics (start.asking whole).ownContext first
    { serviceName := start.vessel.settings.serviceName } (start.asking whole).departed

theorem abreast_first {start : Voyage} (made : start.world.LedgersMade)
    (whole first : List String) :
    (start.asking first).tour.1 = (start.reached whole first).1 ∧
      Abreast (start.outset whole first (start.reached whole first).2.world.ledgers.size)
        (start.world.ledgers.add {}).1 [] [] (start.reached whole first).2
        (start.asking first).tour.2 ∧
      (start.asking first).strikesSeen =
        (legs (start.asking whole).ownContext first
          { serviceName := start.vessel.settings.serviceName }
          (start.asking whole).departed).flatMap Leg.seen := by
  let stop := start.outset whole first (start.reached whole first).2.world.ledgers.size
  have along : Along stop (start.world.ledgers.add {}).1 [] [] id
      (runTactics (start.asking whole).ownContext first
        { serviceName := start.vessel.settings.serviceName })
      (runTactics (start.asking first).ownContext first
        { serviceName := start.vessel.settings.serviceName }) := along_runTactics _ _ _
  have room : Roomy stop (start.reached whole first).2 := fun _ => Nat.le_refl _
  have outset : Abreast stop (start.world.ledgers.add {}).1 [] []
      (start.asking whole).departed (start.asking first).departed :=
    abreast_outset made whole first (along.roomy _ room rfl)
  obtain ⟨same, left⟩ := along.alike _ _ outset room
  exact ⟨same.trans (Outcome.map_id _), left, outset.seen_legs room⟩

/-- The further tactics of a run, and a run over them after one that was abreast. -/
theorem Abreast.resumed {stop : Stopover} {own : Ref Ledger} {kept kept' : List Tactic}
    {reach halfway : Voyage} (abreast : Abreast stop own kept kept' reach halfway)
    (ahead : stop.past = false) (here : stop.place = reach.world.ledgers.size) (event : Event)
    (names : List String) {context : StrikeContext} {service : String}
    (served : halfway.vessel.settings.serviceName = service)
    (given : ((halfway.noted event).asking names).ownContext =
      { context with ledger := (halfway.world.ledgers.add {}).1 }) :
    ((halfway.noted event).asking names).tour.1 =
        (runTactics context names { serviceName := service } reach).1 ∧
      Abreast
        (stop.gone reach.world.journal ((halfway.noted event).asking names).departed.world.journal)
        (halfway.world.ledgers.add {}).1 reach.vessel.tactics []
        (runTactics context names { serviceName := service } reach).2
        ((halfway.noted event).asking names).tour.2 ∧
      ((halfway.noted event).asking names).strikesSeen =
        (legs context names { serviceName := service } reach).flatMap Leg.seen := by
  have again := abreast.again ahead here event names
  have tour : ((halfway.noted event).asking names).tour =
      runTactics { context with ledger := (halfway.world.ledgers.add {}).1 } names
        { serviceName := service } ((halfway.noted event).asking names).departed := by
    rw [Voyage.tour, given, ← served]
    rfl
  have ownLegs : ((halfway.noted event).asking names).ownLegs =
      legs { context with ledger := (halfway.world.ledgers.add {}).1 } names
        { serviceName := service } ((halfway.noted event).asking names).departed := by
    rw [Voyage.ownLegs, given, ← served]
    rfl
  have roomy (state : Voyage) : Roomy
      (stop.gone reach.world.journal ((halfway.noted event).asking names).departed.world.journal)
      state := by
    intro still
    cases still
  obtain ⟨same, left⟩ := (along_runTactics context names { serviceName := service }).alike _ _ again
    (roomy _)
  rw [Voyage.strikesSeen, ownLegs, tour]
  exact ⟨same.trans (Outcome.map_id _), left, again.seen_legs (roomy _)⟩

theorem vessel_toured {start halfway : Voyage} {told : RunSummary}
    (toured : start.tour = (.done told, halfway)) :
    halfway.vessel = { start.vessel with tactics := halfway.vessel.tactics } := by
  obtain ⟨entries, course, -⟩ := sailed toured
  rw [course.vessel]
  rfl

/-- A vessel that sets out again gives its tactics the same context, but for the ledger. -/
theorem ownContext_again {start halfway : Voyage} {earlier : List String} {told : RunSummary}
    (toured : (start.asking earlier).tour = (.done told, halfway)) (whole : List String)
    (event : Event) (later : List String) :
    ((halfway.noted event).asking later).ownContext =
      { (start.asking whole).ownContext with ledger := (halfway.world.ledgers.add {}).1 } := by
  simp only [ownContext, asking, noted]
  rw [vessel_toured toured]
  rfl

/-- Resuming is not stopping: a run over some tactics that ends without bad state, and one over
further tactics in a vessel that takes over its list of executed strikes, come to the same as one run
over all of them. -/
theorem mobilize_resumed {start middle : Voyage} {earlier later : List String} {told : RunSummary}
    (made : start.world.LedgersMade) (asked : earlier ≠ []) (more : later ≠ [])
    (run : mobilize (start.asking earlier) = (.done (.ok told), middle))
    (calm : told.badState = false) :
    Resumed (start.asking (earlier ++ later)) (start.asking earlier) (middle.asking later)
      told := by
  obtain ⟨summary, halfway, toured, ⟨⟩, rfl⟩ := mobilize_done asked run
  -- Up to the stopover the runs hold the same ledgers: those of the second half are yet to be made.
  obtain ⟨same, abreast, seen⟩ := abreast_first made (earlier ++ later) earlier
  cases reached : start.reached (earlier ++ later) earlier with
  | mk outcome reach =>
    rw [reached] at same abreast
    rw [toured] at same abreast
    cases same
    have whole : (start.asking (earlier ++ later)).tour = _ :=
      runTactics_after reached calm later start.vessel.settings.serviceName
    have wholeLegs : (start.asking (earlier ++ later)).ownLegs = _ :=
      legs_after reached calm later start.vessel.settings.serviceName
    have served : halfway.vessel.settings.serviceName = start.vessel.settings.serviceName := by
      rw [vessel_toured toured]
      rfl
    -- From there on the second run is one ledger ahead, which is its own.
    obtain ⟨ends, left, seenAgain⟩ := abreast.resumed rfl rfl (finish told) later served
      (ownContext_again toured (earlier ++ later) (finish told) later)
    have all : (start.asking (earlier ++ later)).vessel.settings.tactics ≠ [] := by
      simp [asking, asked]
    obtain ⟨journal, wholeLeft⟩ := mobilize_left all
    obtain ⟨journal', secondLeft⟩ : ∃ journal,
        (mobilize ((halfway.noted (finish told)).asking later)).2 = _ := mobilize_left more
    obtain ⟨early, reachEvents, halfwayEvents⟩ := abreast.world.journals
    obtain ⟨late, wholeEvents, secondEvents⟩ := left.world.journals
    obtain ⟨ledgers, slots, bench, log, world⟩ := left.world.same
    exact {
      answer := by
        rw [mobilize_outcome all, mobilize_outcome more, whole, ends, Outcome.map_map,
          Outcome.map_map]
        rfl
      strikes := by
        rw [strikesSeen, wholeLegs, List.flatMap_append, seen, seenAgain]
      names := by
        rw [wholeLeft, secondLeft, whole]
        exact left.executedNames.symm
      changes := by
        rw [wholeLeft, secondLeft, whole]
        exact (congrArg World.changes world).symm
      files := by
        rw [wholeLeft, secondLeft, whole]
        exact (congrArg World.files world).symm
      records := by
        rw [wholeLeft, secondLeft, whole, run]
        exact left.records abreast.tactics
      events := by
        refine ⟨early, late, ?_, secondEvents, ?_⟩
        · rw [toured]
          exact halfwayEvents
        · rw [whole]
          exact wholeEvents.trans (congrArg (· ++ late) reachEvents) }

/-- A vessel whose armory has a strike in two tactics, with a ledger that the strikes share. -/
def returning : Voyage :=
  { world := {}
    vessel := {
      settings := { serviceName := "svc", writeDirectory := "out" }
      armory := .ofList
        [("outward", [Execution.passing "a" "first" [.act (.ledger "l")]]),
          ("homeward", [Execution.passing "a" "first" [.act (.ledger "l")],
            Execution.passing "b" "second" [.act (.ledgerState "l")]])]
      executed := ⟨0⟩ } }

theorem ledgersMade_returning : returning.world.LedgersMade where
  ledgers := nofun
  contexts := nofun
  managers := nofun
  results := nofun
  watches := nofun
  unmade _ _ := rfl

theorem mobilize_resumed_returning :
    ∃ told middle, mobilize (returning.asking ["outward"]) = (.done (.ok told), middle) ∧
      told.badState = false ∧
      (mobilize (returning.asking (["outward"] ++ ["homeward"]))).2.executedNames = ["a", "b"] ∧
      Resumed (returning.asking (["outward"] ++ ["homeward"])) (returning.asking ["outward"])
        (middle.asking ["homeward"]) told := by
  have fine : (mobilize (returning.asking ["outward"])).1.map (Except.map RunSummary.badState) =
      .done (.ok false) := by decide +kernel
  have names : (mobilize (returning.asking (["outward"] ++ ["homeward"]))).2.executedNames =
      ["a", "b"] := by decide +kernel
  obtain ⟨told, middle, run, calm⟩ := Outcome.exists_of_map_eq_ok fine
  exact ⟨told, middle, run, calm, names,
    mobilize_resumed ledgersMade_returning (by decide) (by decide) run calm⟩

end Voyage

end Raid
