import Mathlib.Data.List.Basic
import Raid.Proofs.Tactic.Tally

/-!
Executions that share one list of the strikes that have run. Each of them reads the list before its
first strike and adds to it after every body, so that a strike that ran in one of them is passed
over in all that come later.
-/

namespace Raid.Execution

open Act

theorem starts_fresh (before : List String) (context : StrikeContext) (strikes : List Strike)
    (state : Execution) :
    ∀ start ∈ starts before context strikes state, start.strike.name ∉ before := by
  induction strikes generalizing state with
  | nil => simp [starts]
  | cons strike rest ih =>
    simp only [starts]
    split
    · simp
    · by_cases known : strike.name ∈ before
      · rw [if_pos known]
        exact ih _
      · rw [if_neg known]
        refine List.forall_mem_cons.mpr ⟨known, ?_⟩
        split
        · exact ih _
        · simp

structure Recorded (state : Execution) : Prop where
  names : (execute state).2.world.executedNames state.tactic.executed =
    state.namesBefore ++ state.started.flatMap Start.namesAdded
  fresh : ∀ start ∈ state.started, start.strike.name ∉ state.namesBefore
  recordings : ∀ start ∈ state.started, ¬start.strike.body.Records → start.recordings = []

theorem Recorded.of_refused {state : Execution} (none : state.started = [])
    (same : (execute state).2 = state) : Recorded state where
  names := by
    rw [same, none]
    exact (List.append_nil _).symm
  fresh := by simp [none]
  recordings := by simp [none]

/-- An execution that returns adds to the list what its bodies and their strikes add. A tactic that
cannot be executed leaves the list alone. -/
theorem execute_recorded {state : Execution} {result : Except TacticError Unit}
    (shared : state.tactic.executed.index < state.world.executed.size)
    (returned : (execute state).1 = .done result) : Recorded state := by
  cases named : state.tactic.name.isEmpty with
  | true =>
    have none : state.started = [] := by simp [started, named]
    have same : (execute state).2 = state := by rw [execute_unnamed named]
    exact .of_refused none same
  | false =>
    by_cases again : state.tactic.status = .notStarted
    · have ran : Executed state (.done result) (execute state).2 :=
        executed named again (Prod.ext returned rfl)
      obtain ⟨names, recordings⟩ := ran.names shared
      refine ⟨names, ?_, recordings⟩
      intro start member
      have begun : state.started =
          starts state.namesBefore state.ownContext state.tactic.strikes state.entered := by
        simp [started, named, again]
      rw [begun] at member
      exact starts_fresh _ _ _ _ start member
    · have none : state.started = [] := by simp [started, again]
      have same : (execute state).2 = state := by rw [execute_again named again]
      exact .of_refused none same

theorem Recorded.mem_names {state : Execution} (recorded : Recorded state) {start : Start}
    (member : start ∈ state.started) :
    start.strike.name ∈ (execute state).2.world.executedNames state.tactic.executed := by
  have own : start.strike.name ∈ start.namesAdded := by simp [Start.namesAdded]
  rw [recorded.names]
  exact List.mem_append_right _ (List.mem_flatMap.mpr ⟨start, member, own⟩)

/-- Executions that come one after the other and share the list of this reference: what the list
holds before them, the states in which they begin, and what it holds after them. Each of them
returns, and the next one finds the list as it was left. -/
inductive Series (list : Ref ExecutedStrikes) : List String → List Execution → List String → Prop
  | finished (names : List String) : Series list names [] names
  | next {state : Execution} {later : List Execution} {result : Except TacticError Unit}
    {names last : List String} (reads : state.tactic.executed = list)
    (shared : list.index < state.world.executed.size)
    (finds : state.world.executedNames list = names)
    (returned : (execute state).1 = .done result)
    (going : Series list ((execute state).2.world.executedNames list) later last) :
    Series list names (state :: later) last

def namesAdded (states : List Execution) : List String :=
  states.flatMap fun state => state.started.flatMap Start.namesAdded

structure RunsOnce (list : Ref ExecutedStrikes) (first : List String) (states : List Execution)
    (last : List String) : Prop where
  appends : ∀ state ∈ states,
    state.world.executedNames list <+: (execute state).2.world.executedNames list
  names : last = first ++ namesAdded states
  recordings : ∀ state ∈ states, ∀ start ∈ state.started,
    ¬start.strike.body.Records → start.recordings = []
  unlisted : ∀ state ∈ states, ∀ start ∈ state.started, start.strike.name ∉ first
  once : states.Pairwise fun earlier later =>
    ∀ start ∈ earlier.started, ∀ other ∈ later.started, start.strike.name ≠ other.strike.name

/-- One more execution in front. All that it adds is on the list when the others begin. -/
theorem RunsOnce.cons {list : Ref ExecutedStrikes} {state : Execution} {later : List Execution}
    {last : List String} (reads : state.tactic.executed = list) (recorded : Recorded state)
    (going : RunsOnce list ((execute state).2.world.executedNames list) later last) :
    RunsOnce list (state.world.executedNames list) (state :: later) last := by
  subst reads
  have names := recorded.names
  refine ⟨?_, ?_, ?_, ?_, ?_⟩
  · refine List.forall_mem_cons.mpr ⟨?_, going.appends⟩
    rw [names]
    exact List.prefix_append _ _
  · calc last = (execute state).2.world.executedNames state.tactic.executed ++ namesAdded later :=
          going.names
      _ = state.namesBefore ++ state.started.flatMap Start.namesAdded ++ namesAdded later := by
          rw [names]
      _ = state.namesBefore ++ namesAdded (state :: later) := by
          simp only [namesAdded, List.flatMap_cons, List.append_assoc]
  · exact List.forall_mem_cons.mpr ⟨recorded.recordings, going.recordings⟩
  · refine List.forall_mem_cons.mpr ⟨recorded.fresh, ?_⟩
    intro other member start begun listed
    apply going.unlisted other member start begun
    rw [names]
    exact List.mem_append_left _ listed
  · refine List.pairwise_cons.mpr ⟨?_, going.once⟩
    intro other member start begun start' begun' same
    apply going.unlisted other member start' begun'
    rw [← same]
    exact recorded.mem_names begun

/-- Executions that share a list of the strikes that have run only add to it. A strike that is on
the list at first has no body run, and none has bodies run in two of the executions. In the end the
list holds, after what it held at first, the names that each body added and that of its strike, in
the order in which they ran. -/
theorem series_runsOnce {list : Ref ExecutedStrikes} {first : List String}
    {states : List Execution} {last : List String} (series : Series list first states last) :
    RunsOnce list first states last := by
  induction series with
  | finished names =>
    exact ⟨by simp, by simp [namesAdded], by simp, by simp, .nil⟩
  | next reads shared finds returned going ih =>
    subst finds
    have recorded := execute_recorded (by rwa [reads]) returned
    exact ih.cons reads recorded

def NamesBodiesOnly (first : List String) (states : List Execution) (last : List String) : Prop :=
  last = first ++ states.flatMap fun state => state.started.map fun start => start.strike.name

/-- Where no body records a name itself, the list tells the bodies that ran. -/
theorem RunsOnce.namesBodiesOnly {list : Ref ExecutedStrikes} {first : List String}
    {states : List Execution} {last : List String} (runs : RunsOnce list first states last)
    (silent : ∀ state ∈ states, ∀ start ∈ state.started, ¬start.strike.body.Records) :
    NamesBodiesOnly first states last := by
  have added : namesAdded states =
      states.flatMap fun state => state.started.map fun start => start.strike.name := by
    refine List.flatMap_congr fun state member => ?_
    rw [List.map_eq_flatMap]
    refine List.flatMap_congr fun start begun => ?_
    have none := runs.recordings state member start begun (silent state member start begun)
    simp only [Start.namesAdded, none, List.nil_append]
  rw [NamesBodiesOnly, runs.names, added]

def recordingFirst : Execution :=
  ⟨{ executed := (({} : Table ExecutedStrikes).add ⟨["old"]⟩).2
     bench := { executed := Dict.ofList [("e", ⟨0⟩)] } },
    { name := "t"
      strikes := [passing "s1" "first" [.act (.executedRecord "e" "extra")],
        passing "s1" "second" [], passing "old" "third" []]
      context := { service := "svc", ledger := ⟨0⟩ }, executed := ⟨0⟩ }⟩

def readingNext (world : World) : Execution :=
  ⟨world, { name := "u", strikes := [passing "s1" "first" [], passing "s2" "second" []]
            context := { service := "svc", ledger := ⟨0⟩ }, executed := ⟨0⟩ }⟩

def recordingPair : List Execution :=
  [recordingFirst, readingNext (execute recordingFirst).2.world]

theorem series_recordingPair : ∃ last, Series ⟨0⟩ ["old"] recordingPair last ∧
    last = ["old", "extra", "s1", "s1", "s2"] := by
  -- The world in between gets a name, so that it is not computed when states are compared.
  obtain ⟨world, same⟩ : ∃ world, (execute recordingFirst).2.world = world := ⟨_, rfl⟩
  have first : (execute recordingFirst).1.isDone = true := by decide +kernel
  have second : (execute (readingNext world)).1.isDone = true := by
    rw [← same]
    decide +kernel
  have shared : 0 < world.executed.size := by
    rw [← same]
    decide +kernel
  have last : (execute (readingNext world)).2.world.executedNames ⟨0⟩ =
      ["old", "extra", "s1", "s1", "s2"] := by
    rw [← same]
    decide +kernel
  obtain ⟨result, returned⟩ := Outcome.isDone_iff.mp first
  obtain ⟨result', returned'⟩ := Outcome.isDone_iff.mp second
  have going : Series ⟨0⟩ (world.executedNames ⟨0⟩) [readingNext world]
      ((execute (readingNext world)).2.world.executedNames ⟨0⟩) :=
    .next rfl shared rfl returned' (.finished _)
  rw [recordingPair, same]
  refine ⟨_, .next rfl (by decide) (by decide) returned ?_, last⟩
  rw [same]
  exact going

theorem series_runsOnce_recordingPair :
    Series ⟨0⟩ ["old"] recordingPair ["old", "extra", "s1", "s1", "s2"] ∧
      RunsOnce ⟨0⟩ ["old"] recordingPair ["old", "extra", "s1", "s1", "s2"] := by
  obtain ⟨last, series, rfl⟩ := series_recordingPair
  exact ⟨series, series_runsOnce series⟩

/-- The name that a body recorded itself stands between those of the strikes. -/
theorem not_namesBodiesOnly_recordingPair :
    ∃ last, Series ⟨0⟩ ["old"] recordingPair last ∧
      ¬NamesBodiesOnly ["old"] recordingPair last := by
  obtain ⟨last, series, rfl⟩ := series_recordingPair
  refine ⟨_, series, ?_⟩
  unfold NamesBodiesOnly
  decide +kernel

end Raid.Execution
