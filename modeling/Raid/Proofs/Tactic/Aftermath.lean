import Raid.Proofs.Tactic.Closing
import Raid.Proofs.Tactic.Settling

/-!
What an execution that returns leaves behind. All that it accounts for is settled, and its answer is
bad state just when a change among it is in bad state, or when a strike handed back an alert of its
own: an alert halts the loop over the strikes, so that no later strike can bury it.
-/

namespace Raid

structure Tactic.New (tactic : Tactic) : Prop where
  status : tactic.status = .notStarted
  quiet : tactic.badStateAlert = false
  results : tactic.strikeResults = {}

namespace Execution

open Act

def Start.HandsAlert (start : Start) : Prop :=
  ∃ handed world, start.run = (.done handed, world) ∧ handed.report.badStateAlert = true

def Calm (state : Execution) : Prop :=
  ∀ result ∈ state.tactic.strikeResults.values, result.report.badStateAlert = false

/-- Something bad shows: an alert was handed back, or a change is in bad state. -/
def Blemished (ledger : Ref Ledger) (begun : List Start) (state : Execution) : Prop :=
  (∃ start ∈ begun, start.HandsAlert) ∨
    ∃ ref ∈ accounted ledger state, (state.world.change ref).badState = true

theorem booked_calm {strike : Strike} {result : StrikeResult} {state : Execution}
    (calm : Calm state) (fine : result.report.badStateAlert = false) :
    Calm (booked strike result state) := by
  intro other member
  obtain ⟨name, found⟩ := Dict.mem_values.mp member
  simp only [booked, Dict.get?_insert] at found
  split at found
  · cases found
    exact fine
  · exact calm other (Dict.mem_values.mpr ⟨name, found⟩)

theorem booked_mem (strike : Strike) (result : StrikeResult) (state : Execution) :
    result ∈ (booked strike result state).tactic.strikeResults.values :=
  Dict.mem_values.mpr ⟨strike.name, Dict.get?_insert_self _ _ _⟩

theorem booked_accounted {strike : Strike} {result : StrikeResult} {state : Execution}
    {ledger : Ref Ledger} {ref : Ref Change} (member : ref ∈ result.report.changes) :
    ref ∈ accounted ledger (booked strike result state) :=
  mem_accounted.mpr (.inr (mem_keptChanges.mpr
    ⟨strike.name, result, Dict.get?_insert_self _ _ _, member⟩))

/-- When a strike that was followed through raised the alert, something bad shows. -/
theorem closed_alert {start : Start} {result : StrikeResult} {world : World}
    (closed : Closed start.strike start.context start.state.world (.done result) world)
    (alert : result.report.badStateAlert = true) :
    start.HandsAlert ∨
      (∃ ref ∈ result.report.changes, (world.change ref).badState = true) ∨
      ∃ ref ∈ (world.ledger start.context.ledger).changes, (world.change ref).badState = true := by
  cases closed with
  | returned body undone followed =>
    rcases followed.alert.mp alert with handed | bad
    · exact .inl ⟨_, _, body, handed⟩
    · rw [← followed.changes] at bad
      exact .inr (.inl bad)
  | recovered body undone recovered => exact .inr (.inr (recovered.alert.mp alert))

theorem closed_handed {start : Start} {result : StrikeResult} {world : World}
    (closed : Closed start.strike start.context start.state.world (.done result) world)
    (hands : start.HandsAlert) : result.report.badStateAlert = true := by
  obtain ⟨handed, middle, ran, alert⟩ := hands
  cases closed with
  | returned body undone followed =>
    have same := body.symm.trans ran
    cases same
    exact followed.alert.mpr (.inl alert)
  | recovered body undone recovered =>
    have same := body.symm.trans ran
    cases same

variable {before : List String} {context : StrikeContext} {strikes : List Strike}
  {state after : Execution} {begun : List Start} {outcome : Outcome Unit}

/-- After an alert no body starts, and nothing happens but a word in the log. -/
theorem Looped.of_alert (loop : Looped before context strikes state begun outcome after)
    (alert : state.tactic.badStateAlert = true) :
    begun = [] ∧ after.tactic = state.tactic ∧
      after.world = { state.world with journal := after.world.journal } := by
  cases loop with
  | finished state => exact ⟨rfl, rfl, rfl⟩
  | halted alert => exact ⟨rfl, rfl, rfl⟩
  | skipped calm known going => simp [alert] at calm
  | ran calm fresh closed going => simp [alert] at calm
  | panicked calm fresh closed => simp [alert] at calm
  | ended calm fresh closed => simp [alert] at calm

/-- What shows at the end of the loop is what its results say: an alert that is kept has a cause that
still shows, and an alert that was handed back is kept. -/
theorem Looped.alert (loop : Looped before context strikes state begun (.done ()) after)
    (alert : state.tactic.badStateAlert = false) (calm : Calm state) :
    ((∃ result ∈ after.tactic.strikeResults.values, result.report.badStateAlert = true) →
      Blemished context.ledger begun after) ∧
    ((∃ start ∈ begun, start.HandsAlert) →
      ∃ result ∈ after.tactic.strikeResults.values, result.report.badStateAlert = true) := by
  generalize same : Outcome.done () = outcome at loop
  induction loop with
  | finished state =>
    refine ⟨?_, by simp⟩
    rintro ⟨result, member, raised⟩
    simp [calm result member] at raised
  | halted raised => simp [alert] at raised
  | skipped _ known going ih => exact ih alert calm same
  | panicked _ fresh closed => cases same
  | ended _ fresh closed => cases same
  | @ran strike rest state after later outcome result world _ fresh closed going ih =>
    let start : Start := ⟨strike, rest, context, state⟩
    have closed : Closed start.strike start.context start.state.world (.done result) world :=
      closing_cases closed
    cases raised : result.report.badStateAlert with
    | false =>
      -- What this strike handed back carried no alert, so the later starts decide.
      have quiet : ¬start.HandsAlert := by
        intro hands
        have kept := closed_handed closed hands
        simp [raised] at kept
      obtain ⟨caused, kept⟩ := ih raised (booked_calm calm raised) same
      refine ⟨?_, ?_⟩
      · intro raised
        rcases caused raised with ⟨start, member, hands⟩ | bad
        · exact .inl ⟨start, List.mem_cons_of_mem _ member, hands⟩
        · exact .inr bad
      · rintro ⟨start, member, hands⟩
        rcases List.mem_cons.mp member with rfl | member
        · exact absurd hands quiet
        · exact kept ⟨start, member, hands⟩
    | true =>
      -- The loop halts here: what was just booked is what the end shows.
      obtain ⟨rfl, tactic, left⟩ := going.of_alert raised
      have results : after.tactic.strikeResults = (booked strike result
          { state.attempted with world }).tactic.strikeResults := by rw [tactic]
      have change (ref : Ref Change) : after.world.change ref = world.change ref := by
        rw [left]
        rfl
      have ledger : after.world.ledger context.ledger = world.ledger context.ledger := by
        rw [left]
        rfl
      refine ⟨fun _ => ?_, fun _ => ⟨result, by rw [results]; exact booked_mem _ _ _, raised⟩⟩
      rcases closed_alert closed raised with hands | ⟨ref, member, bad⟩ |
        ⟨ref, member, bad⟩
      · exact .inl ⟨_, List.mem_cons_self, hands⟩
      · refine .inr ⟨ref, ?_, by rw [change]; exact bad⟩
        rw [mem_accounted, results]
        exact (mem_accounted.mp (booked_accounted member)).imp_left fun own => by
          rw [ledger]
          exact own
      · refine .inr ⟨ref, ?_, by rw [change]; exact bad⟩
        rw [mem_accounted, ledger]
        exact .inl member

theorem Closed.revertsReturn {strike : Strike} {context : StrikeContext} {world after : World}
    {outcome : Outcome StrikeResult} (closed : Closed strike context world outcome after)
    (returns : world.RevertsReturn) (gentle : strike.RevertsReturn) :
    (∀ payload, outcome ≠ .panicked payload) ∧
      ∀ result, outcome = .done result → after.RevertsReturn := by
  cases closed with
  | returned body undone followed =>
    exact ⟨by simp, fun _ _ => (gentle.run context returns body).of_undone undone⟩
  | recovered body undone recovered =>
    exact ⟨by simp, fun _ _ => (gentle.run context returns body).of_undone undone⟩
  | stuck body undone pending loud => exact absurd (gentle.run context returns body) loud
  | lost body undone pending loud => exact absurd (gentle.run context returns body) loud
  | ended body => exact ⟨by simp, by simp⟩

theorem Looped.revertsReturn (loop : Looped before context strikes state begun outcome after)
    (returns : state.world.RevertsReturn) (gentle : ∀ strike ∈ strikes, strike.RevertsReturn) :
    (∀ payload, outcome ≠ .panicked payload) ∧
      (outcome = .done () → after.world.RevertsReturn) := by
  induction loop with
  | finished state => exact ⟨by simp, fun _ => returns⟩
  | halted alert => exact ⟨by simp, fun _ => returns⟩
  | skipped calm known going ih => exact ih returns (List.forall_mem_cons.mp gentle).2
  | ran calm fresh closed going ih =>
    obtain ⟨gentle, later⟩ := List.forall_mem_cons.mp gentle
    exact ih (((closing_cases closed).revertsReturn returns gentle).2 _ rfl) later
  | panicked calm fresh closed =>
    have held := ((closing_cases closed).revertsReturn returns (List.forall_mem_cons.mp gentle).1).1
    exact absurd rfl (held _)
  | ended calm fresh closed => exact ⟨by simp, by simp⟩

/-- Where no revert function panics, no panic escapes an execution. -/
theorem Executed.revertsReturn {state after : Execution}
    {outcome : Outcome (Except TacticError Unit)} (executed : Executed state outcome after)
    (returns : state.world.RevertsReturn)
    (gentle : ∀ strike ∈ state.tactic.strikes, strike.RevertsReturn) (payload : Payload) :
    outcome ≠ .panicked payload := by
  have entered : state.entered.world.RevertsReturn :=
    returns.of_changes (entered_changes state)
  cases executed with
  | returned event loop swept => simp
  | interrupted loop => exact absurd rfl ((loop.revertsReturn entered gentle).1 _)
  | @unswept looped _ _ loop swept =>
    have kept : (looped.restored state.tactic.strikes).world.RevertsReturn :=
      (loop.revertsReturn entered gentle).2 rfl
    exact absurd kept (cleanUp_panicked swept).2
  | ended loop => simp

theorem answer_eq_badState {tactic : Tactic} :
    answer tactic = .error (.badState tactic.name) ↔ tactic.badStateAlert = true := by
  unfold answer
  cases tactic.badStateAlert with
  | true => simp
  | false => by_cases failed : 0 < tactic.failures <;> simp [failed]

/-- An execution that returns has settled all that it accounts for. -/
theorem Executed.settled {state after : Execution} {result : Except TacticError Unit}
    (executed : Executed state (.done result) after) :
    ∀ ref ∈ accounted state.ownLedger after, (after.world.change ref).Settled := by
  cases executed with
  | returned event loop swept => simpa using (cleanUp_done swept).settled

/-- An execution that began without an alert answers bad state just when something bad shows. -/
theorem Executed.badState_iff {state after : Execution} {result : Except TacticError Unit}
    (executed : Executed state (.done result) after)
    (quiet : state.tactic.badStateAlert = false) (calm : Calm state) :
    result = .error (.badState state.tactic.name) ↔
      Blemished state.ownLedger state.started after := by
  cases executed with
  | @returned looped cleaned event loop swept =>
    have clean := cleanUp_done swept
    have settling := (within_cleanUp state.ownLedger).of_run swept
    have name : cleaned.tactic.name = state.tactic.name := by
      rw [settling.tactic]
      change looped.tactic.name = _
      rw [loop.tactic]
      rfl
    obtain ⟨caused, kept⟩ := loop.alert quiet calm
    rw [← name, answer_eq_badState, clean.alert]
    constructor
    · rintro (⟨ref, member, bad⟩ | raised)
      · exact .inr ⟨ref, by simpa using member, by simpa using bad⟩
      · rcases caused raised with handed | ⟨ref, member, bad⟩
        · exact .inl handed
        · have member := (clean.same ref).mpr member
          have bad : (cleaned.world.change ref).badState = true := settling.undone.bad_after bad
          exact .inr ⟨ref, by simpa using member, by simpa using bad⟩
    · rintro (handed | ⟨ref, member, bad⟩)
      · exact .inr (kept handed)
      · exact .inl ⟨ref, by simpa using member, by simpa using bad⟩

/-- The execution of a tactic that was just made. Unless a revert function panics, no panic escapes
it. When it returns, every change that is in its ledger or in a result that it keeps is settled, and
it answers bad state just when one of these changes is in bad state or a strike handed back an alert
of its own. -/
theorem execute_settles_accounted {state : Execution} (named : state.tactic.name ≠ "")
    (new : state.tactic.New) :
    (state.world.RevertsReturn → (∀ strike ∈ state.tactic.strikes, strike.RevertsReturn) →
      ∀ payload, (execute state).1 ≠ .panicked payload) ∧
    ∀ result, (execute state).1 = .done result →
      (∀ ref ∈ accounted state.ownLedger (execute state).2,
        ((execute state).2.world.change ref).Settled) ∧
      (result = .error (.badState state.tactic.name) ↔
        (∃ start ∈ started state, start.HandsAlert) ∨
          ∃ ref ∈ accounted state.ownLedger (execute state).2,
            ((execute state).2.world.change ref).badState = true) := by
  have filled : state.tactic.name.isEmpty = false := by simpa using named
  have calm : Calm state := by
    intro result member
    rw [new.results] at member
    cases member
  cases run : execute state with
  | mk outcome after =>
    have ran := executed filled new.status run
    refine ⟨ran.revertsReturn, ?_⟩
    rintro result rfl
    exact ⟨ran.settled, ran.badState_iff new.quiet calm⟩

def passing (name description : String) (steps : List Step) : Strike :=
  ⟨name, .scripted { description, steps := steps ++ [.movement
    { id := none, name := "mv", plan := { description := "d", verdict := .pass "fine" } }] }⟩

/-- A strike that passes although its one change failed: the change is registered with a manager,
applied in vain, and attached to no movement. -/
def abandoning : Strike :=
  passing "s1" "first" [
    .act (.change "c" "c" "d" (some (.scripted [.failure ["refused"]]))
      (some (.scripted [.value .null]))),
    .act (.managerOfContext "m" "ctx"), .act (.allow "m"), .act (.add "m" "c" "c"),
    .act (.managerApply "m" "c" "svc" .null)]

def abandoned : Execution :=
  ⟨{}, { name := "t", strikes := [abandoning, passing "s2" "second" []]
         context := { service := "svc", ledger := ⟨0⟩ }, executed := ⟨0⟩ }⟩

/-- Bad state is answered although no result refers to the change that is in it. -/
theorem execute_settles_abandoned :
    (∀ ref ∈ accounted abandoned.ownLedger (execute abandoned).2,
      ((execute abandoned).2.world.change ref).Settled) ∧
    (execute abandoned).1 = .done (.error (.badState "t")) := by
  have named : abandoned.tactic.name ≠ "" := by decide
  have done : (execute abandoned).1.isDone = true := by decide +kernel
  have bad : ∃ ref ∈ accounted abandoned.ownLedger (execute abandoned).2,
      ((execute abandoned).2.world.change ref).badState = true := by decide +kernel
  obtain ⟨result, returned⟩ := Outcome.isDone_iff.mp done
  obtain ⟨settled, answered⟩ :=
    (execute_settles_accounted named ⟨rfl, rfl, rfl⟩).2 result returned
  rw [answered.mpr (.inr bad)] at returned
  exact ⟨settled, returned⟩

end Execution

end Raid
