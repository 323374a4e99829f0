import Raid.Proofs.Script.Recording
import Raid.Proofs.Tactic.Aftermath

/-!
The account that an execution gives of itself. The bodies that run are those of the strikes that had
not run before, in order, up to the first result with an alert; the counts, the kept results and the
names of the strikes that have run are those of these bodies, and the answer follows from the alert
and the counts.
-/

namespace Raid

structure Tactic.Uncounted (tactic : Tactic) : Prop extends tactic.New where
  attempts : tactic.attempts = 0
  successes : tactic.successes = 0
  failures : tactic.failures = 0

/-- The counts of the tactic are within 32 bits, even when so many strikes more are counted. -/
structure Tactic.Fits (tactic : Tactic) (more : Nat) : Prop where
  attempts : tactic.attempts + more < Nat.pow 2 32
  successes : tactic.successes + more < Nat.pow 2 32
  failures : tactic.failures + more < Nat.pow 2 32

theorem Tactic.Fits.of_le {tactic : Tactic} {more less : Nat} (fits : tactic.Fits more)
    (le : less ≤ more) : tactic.Fits less := by
  obtain ⟨attempts, successes, failures⟩ := fits
  constructor <;> omega

namespace Execution

open Act

abbrev Closings := List (Strike × StrikeResult)

/-- The closings come from the strikes in turn: from all of them, or up to the first result with an
alert. -/
inductive CutAfterAlert : List Strike → Closings → Prop
  | spent : CutAfterAlert [] []
  | halted {strike : Strike} {rest : List Strike} {result : StrikeResult}
    (alert : result.report.badStateAlert = true) :
    CutAfterAlert (strike :: rest) [(strike, result)]
  | on {strike : Strike} {rest : List Strike} {result : StrikeResult} {later : Closings}
    (calm : result.report.badStateAlert = false) (going : CutAfterAlert rest later) :
    CutAfterAlert (strike :: rest) ((strike, result) :: later)

def latest? (name : String) (closings : Closings) : Option StrikeResult :=
  (closings.reverse.find? fun closing => closing.1.name = name).map Prod.snd

def passes (closings : Closings) : Nat := closings.countP fun closing => closing.2.report.passed

theorem latest?_cons (name : String) (strike : Strike) (result : StrikeResult)
    (later : Closings) :
    latest? name ((strike, result) :: later) =
      (latest? name later).or (if name = strike.name then some result else none) := by
  simp only [latest?, List.reverse_cons, List.find?_append, Option.map_or]
  by_cases same : name = strike.name
  · simp [same]
  · simp [same, Ne.symm same]

theorem latest?_isSome (name : String) (closings : Closings) :
    (latest? name closings).isSome ↔ ∃ closing ∈ closings, closing.1.name = name := by
  simp [latest?]

theorem mem_of_latest? {name : String} {closings : Closings} {result : StrikeResult}
    (found : latest? name closings = some result) : ∃ closing ∈ closings, closing.2 = result := by
  obtain ⟨closing, last, rfl⟩ := Option.map_eq_some_iff.mp found
  exact ⟨closing, List.mem_reverse.mp (List.mem_of_find?_eq_some last), rfl⟩

def Start.recordings (start : Start) : List String :=
  (start.run.2.executedNames start.state.tactic.executed).drop
    (start.state.world.executedNames start.state.tactic.executed).length

/-- The names that a start adds to the list: those of its body, and then that of its strike. -/
def Start.namesAdded (start : Start) : List String := start.recordings ++ [start.strike.name]

theorem Start.run_names (start : Start)
    (inside : start.state.tactic.executed.index < start.state.world.executed.size) :
    start.run.2.executedNames start.state.tactic.executed =
      start.state.world.executedNames start.state.tactic.executed ++ start.recordings ∧
      (¬start.strike.body.Records → start.recordings = []) := by
  obtain ⟨added, names, none⟩ := (start.strike.run_recorded start.context
    start.state.tactic.executed start.state.world).names inside
  have same : start.recordings = added := by
    simp only [recordings, Start.run, names, List.drop_left]
  rw [same]
  exact ⟨names, none⟩

section

variable {strike : Strike} {context : StrikeContext} {world after : World} {result : StrikeResult}
  (closed : closing strike context world = (.done result, after))

include closed

/-- After its body a strike records nothing until it is booked. -/
theorem closing_executed : after.executed = (strike.run context world).2.executed := by
  cases closing_cases closed with
  | returned body undone followed =>
    rw [body]
    exact World.executed_of_surroundings undone.surroundings
  | recovered body undone recovered =>
    rw [body]
    exact World.executed_of_surroundings undone.surroundings

theorem closing_message : result.report.message.isEmpty = false := by
  obtain ⟨handed, middle, -, followed⟩ := bind_eq_done closed
  exact (StrikeResult.followThrough_done followed).message

end

structure Tallied (before : List String) (strikes : List Strike) (state : Execution)
    (begun : List Start) (after : Execution) (closings : Closings) : Prop where
  bodies : begun.map (fun start => (start.strike, start.closed.1)) =
    closings.map fun closing => (closing.1, .done closing.2)
  cut : state.tactic.badStateAlert = false →
    CutAfterAlert (strikes.filter fun strike => strike.name ∉ before) closings
  filled : ∀ closing ∈ closings, closing.2.report.message.isEmpty = false
  attempts : after.tactic.attempts = state.tactic.attempts + closings.length
  successes : after.tactic.successes = state.tactic.successes + passes closings
  counts : after.tactic.successes + after.tactic.failures =
    state.tactic.successes + state.tactic.failures + closings.length
  results : ∀ name, after.tactic.strikeResults.get? name =
    (latest? name closings).or (state.tactic.strikeResults.get? name)
  names : state.tactic.executed.index < state.world.executed.size →
    after.world.executedNames state.tactic.executed =
        state.world.executedNames state.tactic.executed ++ begun.flatMap Start.namesAdded ∧
      ∀ start ∈ begun, ¬start.strike.body.Records → start.recordings = []

variable {before : List String} {context : StrikeContext} {strikes : List Strike}
  {state after : Execution} {begun : List Start} {closings : Closings}

theorem Tallied.nothing (cut : state.tactic.badStateAlert = false →
      strikes.filter (fun strike => strike.name ∉ before) = [])
    (tactic : after.tactic = state.tactic) (executed : after.world.executed = state.world.executed) :
    Tallied before strikes state [] after [] where
  bodies := rfl
  cut calm := by
    rw [cut calm]
    exact .spent
  filled := by simp
  attempts := by simp [tactic]
  successes := by simp [tactic, passes]
  counts := by simp [tactic]
  results := by simp [tactic, latest?]
  names := by simp [World.executedNames, executed]

theorem Tallied.booked {strike : Strike} {result : StrikeResult} {world : World}
    (fresh : strike.name ∉ before)
    (closed : closing strike context state.world = (.done result, world))
    (tallied : Tallied before strikes (Execution.booked strike result { state.attempted with world })
      begun after closings)
    (halted : result.report.badStateAlert = true → closings = []) :
    Tallied before (strike :: strikes) state (⟨strike, strikes, context, state⟩ :: begun) after
      ((strike, result) :: closings) where
  bodies := by
    have ran : (⟨strike, strikes, context, state⟩ : Start).closed = (.done result, world) := closed
    simp only [List.map_cons, ran, tallied.bodies]
  cut _ := by
    rw [List.filter_cons_of_pos (by simpa using fresh)]
    cases alert : result.report.badStateAlert with
    | true =>
      rw [halted alert]
      exact .halted alert
    | false => exact .on alert (tallied.cut alert)
  filled := List.forall_mem_cons.mpr ⟨closing_message closed, tallied.filled⟩
  attempts := by
    rw [tallied.attempts]
    simp only [Execution.booked, counted, attempted, List.length_cons]
    omega
  successes := by
    rw [tallied.successes]
    simp only [Execution.booked, counted, attempted, passes, List.countP_cons]
    split <;> omega
  counts := by
    rw [tallied.counts]
    simp only [Execution.booked, counted, attempted, List.length_cons]
    split <;> omega
  results name := by
    rw [tallied.results, latest?_cons]
    simp only [Execution.booked, attempted, Dict.get?_insert]
    cases latest? name closings with
    | some last => rfl
    | none => by_cases same : name = strike.name <;> simp [same]
  names inside := by
    let start : Start := ⟨strike, strikes, context, state⟩
    obtain ⟨names, none⟩ := start.run_names inside
    have same := closing_executed closed
    have size := (strike.run_recorded context state.tactic.executed state.world).size
    have kept : world.executedNames state.tactic.executed =
        state.world.executedNames state.tactic.executed ++ start.recordings := by
      rw [← names]
      simp only [World.executedNames, same]
      rfl
    obtain ⟨later, none'⟩ := tallied.names (by
      change state.tactic.executed.index < world.executed.size
      rw [same]
      exact Nat.lt_of_lt_of_le inside size)
    refine ⟨?_, List.forall_mem_cons.mpr ⟨none, none'⟩⟩
    have added : (Execution.booked strike result { state.attempted with world }).world.executedNames
        state.tactic.executed = world.executedNames state.tactic.executed ++ [strike.name] := by
      simp [Execution.booked, recorded, attempted, noted, World.executedNames]
    rw [List.flatMap_cons, Start.namesAdded, ← List.append_assoc, ← List.append_assoc, ← kept,
      ← added]
    exact later

theorem Looped.tallied (loop : Looped before context strikes state begun (.done ()) after) :
    ∃ closings, Tallied before strikes state begun after closings := by
  generalize same : Outcome.done () = outcome at loop
  induction loop with
  | finished state => exact ⟨[], .nothing (fun _ => rfl) rfl rfl⟩
  | halted alert => exact ⟨[], .nothing (by simp [alert]) rfl rfl⟩
  | skipped calm known going ih =>
    obtain ⟨closings, tallied⟩ := ih same
    refine ⟨closings, { tallied with cut := fun calm => ?_ }⟩
    rw [List.filter_cons_of_neg (by simpa using known)]
    exact tallied.cut calm
  | @ran strike rest state after later outcome result world calm fresh closed going ih =>
    obtain ⟨closings, tallied⟩ := ih same
    refine ⟨(strike, result) :: closings, tallied.booked fresh closed fun alert => ?_⟩
    -- After an alert the loop goes on with nothing.
    subst same
    have none := (going.of_alert alert).1
    have bodies := tallied.bodies
    rw [none] at bodies
    exact List.map_eq_nil_iff.mp bodies.symm
  | panicked calm fresh closed => cases same
  | ended calm fresh closed => cases same

/-- The process ends in the loop only when the body of a strike ends it. -/
theorem Looped.of_ended {ending : Ending}
    (loop : Looped before context strikes state begun (.ended ending) after) :
    ∃ start ∈ begun, start.run.1 = .ended ending := by
  generalize same : Outcome.ended ending = outcome at loop
  induction loop with
  | finished state => cases same
  | halted alert => cases same
  | skipped calm known going ih => exact ih same
  | ran calm fresh closed going ih =>
    obtain ⟨start, member, ended⟩ := ih same
    exact ⟨start, List.mem_cons_of_mem _ member, ended⟩
  | panicked calm fresh closed => cases same
  | ended calm fresh closed =>
    cases same
    cases closing_cases closed with
    | ended body => exact ⟨_, List.mem_cons_self, congrArg Prod.fst body⟩

inductive Answered (tactic : Tactic) : Except TacticError Unit → Prop
  | badState (alert : tactic.badStateAlert = true) (status : tactic.status = .haltedBadState)
    (passed : tactic.passed = false) : Answered tactic (.error (.badState tactic.name))
  | failed (calm : tactic.badStateAlert = false) (failed : 0 < tactic.failures)
    (status : tactic.status = .completed) (passed : tactic.passed = false) :
    Answered tactic (.error (.strikesFailed tactic.name tactic.successes tactic.attempts))
  | passed (calm : tactic.badStateAlert = false) (fine : tactic.failures = 0)
    (status : tactic.status = .completed) (passed : tactic.passed = true) :
    Answered tactic (.ok ())

theorem answered_finished (now : Moment) (tactic : Tactic) :
    Answered (finished now tactic) (answer tactic) := by
  unfold answer
  cases alert : tactic.badStateAlert with
  | true =>
    have status : (finished now tactic).status = .haltedBadState := by simp [finished, alert]
    have passed : (finished now tactic).passed = false := by simp [finished, alert]
    exact .badState alert status passed
  | false =>
    have status : (finished now tactic).status = .completed := by simp [finished, alert]
    by_cases failed : 0 < tactic.failures
    · have passed : (finished now tactic).passed = false := by
        simp [finished, Nat.ne_of_gt failed]
      simp only [failed, Bool.false_eq_true, ↓reduceIte]
      exact .failed alert failed status passed
    · have fine : tactic.failures = 0 := Nat.eq_zero_of_not_pos failed
      have passed : (finished now tactic).passed = true := by simp [finished, alert, fine]
      simp only [failed, Bool.false_eq_true, ↓reduceIte]
      exact .passed alert fine status passed

/-- What an execution that returns tells of itself, by the strikes that were closed in it. -/
structure Told (state : Execution) (closings : Closings) (result : Except TacticError Unit)
    (after : Execution) : Prop where
  bodies : state.started.map (fun start => (start.strike, start.closed.1)) =
    closings.map fun closing => (closing.1, .done closing.2)
  cut : CutAfterAlert
    (state.tactic.strikes.filter fun strike => strike.name ∉ state.namesBefore) closings
  attempts : after.tactic.attempts = closings.length
  successes : after.tactic.successes = passes closings
  counts : after.tactic.successes + after.tactic.failures = after.tactic.attempts
  names : after.world.executedNames state.tactic.executed =
    state.namesBefore ++ state.started.flatMap Start.namesAdded
  recordings : ∀ start ∈ state.started, ¬start.strike.body.Records → start.recordings = []
  keys : ∀ name, name ∈ after.tactic.strikeResults.keys ↔
    ∃ closing ∈ closings, closing.1.name = name
  results : ∀ name, after.tactic.strikeResults.get? name =
    (latest? name closings).map (StrikeResult.judged after.world)
  name : after.tactic.name = state.tactic.name
  answered : Answered after.tactic result

theorem Executed.tactic {result : Except TacticError Unit}
    (executed : Executed state (.done result) after) :
    after.tactic = { state.tactic with
      status := after.tactic.status, startTime := after.tactic.startTime
      endTime := after.tactic.endTime, passed := after.tactic.passed
      badStateAlert := after.tactic.badStateAlert, attempts := after.tactic.attempts
      successes := after.tactic.successes, failures := after.tactic.failures
      strikeResults := after.tactic.strikeResults } := by
  cases executed with
  | @returned looped cleaned event loop swept =>
    simp only [concluded, noted, finished]
    rw [((within_cleanUp state.ownLedger).of_run swept).tactic]
    simp only [restored]
    rw [loop.tactic]
    rfl

theorem Executed.keeps_revertsReturn {result : Except TacticError Unit}
    (executed : Executed state (.done result) after) (returns : state.world.RevertsReturn)
    (gentle : ∀ strike ∈ state.tactic.strikes, strike.RevertsReturn) :
    after.world.RevertsReturn := by
  have entered : state.entered.world.RevertsReturn := returns.of_changes (entered_changes state)
  cases executed with
  | @returned looped cleaned event loop swept =>
    have kept : (looped.restored state.tactic.strikes).world.RevertsReturn :=
      (loop.revertsReturn entered gentle).2 rfl
    have clean := kept.of_undone ((within_cleanUp state.ownLedger).of_run swept).undone
    intro ref
    rw [change_concluded]
    exact clean ref

/-- Where no revert function panics, a tactic that was not executed before returns, unless one of its
bodies ends the process. -/
theorem execute_returns {state : Execution} (fresh : state.tactic.status = .notStarted)
    (returns : state.world.RevertsReturn)
    (gentle : ∀ strike ∈ state.tactic.strikes, strike.RevertsReturn) :
    (∃ result, (execute state).1 = .done result ∧ (execute state).2.world.RevertsReturn) ∨
      ∃ ending, (execute state).1 = .ended ending ∧
        ∃ start ∈ state.started, start.run.1 = .ended ending := by
  cases named : state.tactic.name.isEmpty with
  | true => exact .inl ⟨_, congrArg Prod.fst (execute_unnamed named), by rwa [execute_unnamed named]⟩
  | false =>
    cases run : execute state with
    | mk outcome after =>
      have ran := executed named fresh run
      cases outcome with
      | done result => exact .inl ⟨result, rfl, ran.keeps_revertsReturn returns gentle⟩
      | panicked payload => exact absurd rfl (ran.revertsReturn returns gentle payload)
      | ended ending =>
        cases ran with
        | ended loop => exact .inr ⟨ending, rfl, loop.of_ended⟩

theorem execute_name {state : Execution} (fresh : state.tactic.status = .notStarted)
    {result : Except TacticError Unit} (done : (execute state).1 = .done result) :
    (execute state).2.tactic.name = state.tactic.name := by
  cases named : state.tactic.name.isEmpty with
  | true => rw [execute_unnamed named]
  | false =>
    cases run : execute state with
    | mk outcome after =>
      rw [run] at done
      cases done
      rw [(executed named fresh run).tactic]

theorem Tallied.counted {looped cleaned : Execution}
    (tallied : Tallied state.namesBefore state.tactic.strikes state.entered state.started looped
      closings)
    (swept : cleanUp state.ownLedger (looped.restored state.tactic.strikes) = (.done (), cleaned))
    (uncounted : state.tactic.Uncounted) :
    cleaned.tactic.attempts = closings.length ∧ cleaned.tactic.successes = passes closings ∧
      cleaned.tactic.successes + cleaned.tactic.failures = cleaned.tactic.attempts := by
  have kept : cleaned.tactic.attempts = looped.tactic.attempts ∧
      cleaned.tactic.successes = looped.tactic.successes ∧
      cleaned.tactic.failures = looped.tactic.failures := by
    rw [((within_cleanUp state.ownLedger).of_run swept).tactic]
    exact ⟨rfl, rfl, rfl⟩
  have attempts := tallied.attempts
  have successes := tallied.successes
  have counts := tallied.counts
  simp only [Execution.entered, noted, uncounted.attempts, uncounted.successes,
    uncounted.failures] at attempts successes counts
  omega

/-- The names that an execution that returns adds to the list are those that its starts add. -/
theorem Executed.names {result : Except TacticError Unit}
    (executed : Executed state (.done result) after)
    (shared : state.tactic.executed.index < state.world.executed.size) :
    after.world.executedNames state.tactic.executed =
        state.namesBefore ++ state.started.flatMap Start.namesAdded ∧
      ∀ start ∈ state.started, ¬start.strike.body.Records → start.recordings = [] := by
  cases executed with
  | @returned looped cleaned event loop swept =>
    obtain ⟨closings, tallied⟩ := loop.tallied
    have settling := (within_cleanUp state.ownLedger).of_run swept
    have entered : state.entered.world.executed = state.world.executed := by
      obtain ⟨slots, processSlot, journal, same⟩ := state.entered_world
      rw [same]
    obtain ⟨names, recordings⟩ := tallied.names (entered ▸ shared)
    have left : (concluded state.opened.1 event cleaned).world.executed =
        looped.world.executed := by
      obtain ⟨slots, unwatched⟩ := world_withWatch state.opened.1 none cleaned
      simp only [concluded, noted, unwatched]
      exact World.executed_of_surroundings settling.undone.surroundings
    refine ⟨?_, recordings⟩
    simp only [World.executedNames, left]
    refine names.trans ?_
    simp only [World.executedNames, entered]
    rfl

theorem Executed.told {result : Except TacticError Unit}
    (executed : Executed state (.done result) after) (uncounted : state.tactic.Uncounted)
    (shared : state.tactic.executed.index < state.world.executed.size) :
    ∃ closings, Told state closings result after := by
  have tactic := executed.tactic
  obtain ⟨names, recordings⟩ := executed.names shared
  cases executed with
  | @returned looped cleaned event loop swept =>
    obtain ⟨closings, tallied⟩ := loop.tallied
    have results (name : String) : cleaned.tactic.strikeResults.get? name =
        (latest? name closings).map (StrikeResult.judged cleaned.world) := by
      have begun : looped.tactic.strikeResults.get? name = latest? name closings := by
        rw [tallied.results]
        change (latest? name closings).or (state.tactic.strikeResults.get? name) = _
        rw [uncounted.results]
        exact Option.or_none
      rw [← begun]
      refine (cleanUp_done swept).passed.get?_eq name fun result found => ?_
      obtain ⟨closing, member, rfl⟩ := mem_of_latest? (begun.symm.trans found)
      exact tallied.filled closing member
    obtain ⟨attempts, successes, counts⟩ := tallied.counted swept uncounted
    refine ⟨closings, tallied.bodies, tallied.cut uncounted.quiet, attempts, successes, counts,
      names, recordings, fun name => ?_, fun name => ?_, ?_, answered_finished _ _⟩
    · change name ∈ cleaned.tactic.strikeResults.keys ↔ _
      rw [Dict.mem_keys, ← latest?_isSome, results, ← Option.isSome_iff_exists,
        Option.isSome_map]
    · refine (results name).trans ?_
      congr 1
      funext result
      exact StrikeResult.judged_congr fun ref _ => by rw [change_concluded]
    · rw [tactic]

theorem CutAfterAlert.length_le {strikes : List Strike} {closings : Closings}
    (cut : CutAfterAlert strikes closings) : closings.length ≤ strikes.length := by
  induction cut with
  | spent => exact Nat.le_refl 0
  | halted alert => simp
  | on calm going ih => exact Nat.succ_le_succ ih

theorem fits_booked {strike : Strike} {result : StrikeResult} {state : Execution} {world : World}
    {more : Nat} (fits : state.tactic.Fits (more + 1)) :
    (booked strike result { state.attempted with world }).tactic.Fits more := by
  obtain ⟨attempts, successes, failures⟩ := fits
  constructor <;> simp only [booked, counted, attempted] <;> (try split) <;> omega

/-- Where there is room for all strikes in the counts, a body starts with room for those that are
left. -/
theorem fits_of_starts {before : List String} {context : StrikeContext} {strikes : List Strike}
    {state : Execution} {start : Start} (begun : start ∈ starts before context strikes state)
    (fits : state.tactic.Fits strikes.length) :
    start.state.tactic.Fits (start.rest.length + 1) := by
  induction strikes generalizing state with
  | nil => cases begun
  | cons strike rest ih =>
    simp only [starts] at begun
    split at begun
    · cases begun
    · split at begun
      · exact ih begun (fits.of_le (Nat.le_succ rest.length))
      · rcases List.mem_cons.mp begun with rfl | later
        · exact fits
        · rw [runStrike_eq] at later
          cases closed : closing strike context state.world with
          | mk outcome world =>
            cases outcome with
            | done result =>
              simp only [closed] at later
              exact ih later (fits_booked fits)
            | panicked payload => simp [closed] at later
            | ended ending => simp [closed] at later

theorem Executed.attempts_le {result : Except TacticError Unit}
    (executed : Executed state (.done result) after) (uncounted : state.tactic.Uncounted) :
    after.tactic.successes + after.tactic.failures = after.tactic.attempts ∧
      after.tactic.attempts ≤ state.tactic.strikes.length := by
  cases executed with
  | @returned looped cleaned event loop swept =>
    obtain ⟨closings, tallied⟩ := loop.tallied
    obtain ⟨attempts, -, counts⟩ := tallied.counted swept uncounted
    refine ⟨counts, ?_⟩
    calc cleaned.tactic.attempts = closings.length := attempts
      _ ≤ _ := (tallied.cut uncounted.quiet).length_le
      _ ≤ state.tactic.strikes.length := List.length_filter_le _ _

theorem Executed.fits {result : Except TacticError Unit}
    (executed : Executed state (.done result) after) (uncounted : state.tactic.Uncounted)
    (short : state.tactic.strikes.length < Nat.pow 2 32) : after.tactic.Fits 0 := by
  obtain ⟨counts, bound⟩ := executed.attempts_le uncounted
  constructor <;> omega

theorem Executed.answered {result : Except TacticError Unit}
    (executed : Executed state (.done result) after) : Answered after.tactic result := by
  cases executed with
  | returned event loop swept => exact answered_finished _ _

/-- The execution of a tactic that was just made. Unless a revert function panics, it returns, or a
body of it ended the process. When it returns, the bodies that ran are those of the strikes that
had not run before, in order and up to the first result with an alert, and counts, results, names,
status and answer are those of these bodies. The counts are within 32 bits if the number of the
strikes is. -/
theorem execute_told {state : Execution} (named : state.tactic.name ≠ "")
    (uncounted : state.tactic.Uncounted)
    (shared : state.tactic.executed.index < state.world.executed.size) :
    (state.world.RevertsReturn → (∀ strike ∈ state.tactic.strikes, strike.RevertsReturn) →
      (∃ result, (execute state).1 = .done result) ∨
        ∃ ending, (execute state).1 = .ended ending ∧
          ∃ start ∈ state.started, start.run.1 = .ended ending) ∧
    ∀ result, (execute state).1 = .done result →
      (∃ closings, Told state closings result (execute state).2) ∧
        (state.tactic.strikes.length < Nat.pow 2 32 → (execute state).2.tactic.Fits 0) := by
  have filled : state.tactic.name.isEmpty = false := by simpa using named
  refine ⟨fun returns gentle => ?_, fun result done => ?_⟩
  · rcases execute_returns uncounted.status returns gentle with ⟨result, done, -⟩ | ended
    · exact .inl ⟨result, done⟩
    · exact .inr ended
  · have ran := executed filled uncounted.status (Prod.ext done rfl)
    exact ⟨ran.told uncounted shared, ran.fits uncounted⟩

def AddsStrikesOnly (state : Execution) : Prop :=
  (execute state).2.world.executedNames state.tactic.executed =
    state.namesBefore ++ state.started.map fun start => start.strike.name

def recording : Execution :=
  ⟨{ executed := (({} : Table ExecutedStrikes).add ⟨["old"]⟩).2
     bench := { executed := Dict.ofList [("e", ⟨0⟩)] } },
    { name := "t", strikes := [passing "s1" "first" [.act (.executedRecord "e" "extra")]]
      context := { service := "svc", ledger := ⟨0⟩ }, executed := ⟨0⟩ }⟩

theorem execute_told_recording :
    (∃ result closings, (execute recording).1 = .done result ∧
      Told recording closings result (execute recording).2 ∧ (execute recording).2.tactic.Fits 0) ∧
    (execute recording).2.world.executedNames recording.tactic.executed =
      ["old", "extra", "s1"] := by
  have done : (execute recording).1.isDone = true := by decide +kernel
  obtain ⟨result, returned⟩ := Outcome.isDone_iff.mp done
  obtain ⟨⟨closings, told⟩, fits⟩ :=
    (execute_told (by decide) ⟨⟨rfl, rfl, rfl⟩, rfl, rfl, rfl⟩ (by decide)).2 result returned
  exact ⟨⟨result, closings, returned, told, fits (by decide)⟩, by decide +kernel⟩

/-- The name that the body recorded stands in the list. -/
theorem not_addsStrikesOnly_recording : ¬AddsStrikesOnly recording := by
  unfold AddsStrikesOnly
  decide +kernel

end Execution

end Raid
