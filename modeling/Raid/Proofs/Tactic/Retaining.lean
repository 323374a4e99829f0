import Raid.Proofs.Document.Deciding
import Raid.Proofs.Tactic.Tally

/-!
What an execution retains. A result that was followed through once is left as it is by every further
following through, so the cleaning up at the end finds nothing to do for a result whose changes no
later strike has touched: it stays as its own following through left it.
-/

namespace Raid.Execution

open Act StrikeResult

/-- The strike leaves the change in the state in which its body found it. -/
def Start.Leaves (start : Start) (ref : Ref Change) : Prop :=
  start.closed.2.change ref = start.state.world.change ref

section

variable {before : List String} {context : StrikeContext} {strikes : List Strike}
  {state after : Execution} {begun : List Start} {outcome : Outcome Unit} {name : String}
  {kept : StrikeResult} {world : World} {ref : Ref Change}

/-- A change that every strike leaves is as it was. -/
theorem Looped.leaves (loop : Looped before context strikes state begun outcome after)
    (leaves : ∀ start ∈ begun, start.Leaves ref) :
    after.world.change ref = state.world.change ref := by
  induction loop with
  | finished state => rfl
  | halted alert => rfl
  | skipped calm known going ih => exact ih leaves
  | ran calm fresh closed going ih =>
    obtain ⟨own, others⟩ := List.forall_mem_cons.mp leaves
    rw [Start.Leaves, Start.closed, closed] at own
    exact (ih others).trans own
  | panicked calm fresh closed =>
    have own := leaves _ List.mem_cons_self
    rwa [Start.Leaves, Start.closed, closed] at own
  | ended calm fresh closed =>
    have own := leaves _ List.mem_cons_self
    rwa [Start.Leaves, Start.closed, closed] at own

/-- A result stays under its name as long as no strike of that name runs. -/
theorem Looped.retains (loop : Looped before context strikes state begun outcome after)
    (others : ∀ start ∈ begun, start.strike.name ≠ name) :
    after.tactic.strikeResults.get? name = state.tactic.strikeResults.get? name := by
  induction loop with
  | finished state => rfl
  | halted alert => rfl
  | skipped calm known going ih => exact ih others
  | ran calm fresh closed going ih =>
    obtain ⟨different, others⟩ := List.forall_mem_cons.mp others
    rw [ih others]
    simp only [booked, attempted, Dict.get?_insert, if_neg different.symm]
  | panicked calm fresh closed => rfl
  | ended calm fresh closed => rfl

/-- The result of a strike is kept under its name when no later strike has this name, and its changes
are as it left them when no later strike does anything to them. -/
theorem Looped.keeps (loop : Looped before context strikes state begun outcome after)
    {earlier later : List Start} {start : Start} (order : begun = earlier ++ start :: later)
    (closed : start.closed = (.done kept, world))
    (others : ∀ other ∈ later, other.strike.name ≠ start.strike.name) :
    after.tactic.strikeResults.get? start.strike.name = some kept ∧
      ∀ ref, (∀ other ∈ later, other.Leaves ref) → after.world.change ref = world.change ref := by
  induction loop generalizing earlier with
  | finished state => simp at order
  | halted alert => simp at order
  | skipped calm known going ih => exact ih order
  | ran calm fresh ended going ih =>
    cases earlier with
    | nil =>
      obtain ⟨rfl, rfl⟩ := List.cons.inj order
      rw [Start.closed, ended] at closed
      cases closed
      refine ⟨?_, fun ref leaves => going.leaves leaves⟩
      rw [going.retains others]
      exact Dict.get?_insert_self _ _ _
    | cons head rest => exact ih (List.cons.inj order).2
  | panicked calm fresh ended =>
    cases earlier with
    | nil =>
      obtain ⟨rfl, -⟩ := List.cons.inj order
      rw [Start.closed, ended] at closed
      cases closed
    | cons head rest => simp at order
  | ended calm fresh ended =>
    cases earlier with
    | nil =>
      obtain ⟨rfl, -⟩ := List.cons.inj order
      rw [Start.closed, ended] at closed
      cases closed
    | cons head rest => simp at order

end

theorem Start.finished {start : Start} {kept : StrikeResult} {world : World}
    (closed : start.closed = (.done kept, world)) : kept.Finished world := by
  obtain ⟨handed, middle, -, followed⟩ := bind_eq_done closed
  exact (followThrough_done followed).finished

/-- The cleaning up leaves a finished result and its changes as they are. -/
theorem cleanUp_retains {ledger : Ref Ledger} {state after : Execution} {name : String}
    {kept : StrikeResult} (run : cleanUp ledger state = (.done (), after))
    (found : state.tactic.strikeResults.get? name = some kept)
    (finished : kept.Finished state.world) :
    after.tactic.strikeResults.get? name = some kept ∧
      ∀ ref ∈ kept.report.changes, after.world.change ref = state.world.change ref := by
  have undone := ((within_cleanUp ledger).of_run run).undone
  have same : ∀ ref ∈ kept.report.changes, after.world.change ref = state.world.change ref := by
    intro ref member
    exact undone.settled ref (finished.settled ref member)
  refine ⟨?_, same⟩
  have filled : ∀ result, state.tactic.strikeResults.get? name = some result →
      result.report.message.isEmpty = false := by
    intro result known
    rw [found] at known
    cases known
    exact finished.filled
  rw [(cleanUp_done run).passed.get?_eq name filled, found, Option.map_some,
    (finished.of_same same).judged]

/-- What an execution retains is as its own following through left it: the result of every strike and
every finished result that the tactic came with, provided that no later strike has its name and that
the later strikes leave its changes alone. -/
structure Retains (state after : Execution) : Prop where
  own : ∀ earlier start later kept world, state.started = earlier ++ start :: later →
    start.closed = (.done kept, world) →
    (∀ other ∈ later, other.strike.name ≠ start.strike.name) →
    (∀ other ∈ later, ∀ ref ∈ kept.report.changes, other.Leaves ref) →
    after.tactic.strikeResults.get? start.strike.name = some kept ∧
      ∀ ref ∈ kept.report.changes, after.world.change ref = world.change ref
  brought : ∀ name kept, state.tactic.strikeResults.get? name = some kept →
    kept.Finished state.world → (∀ other ∈ state.started, other.strike.name ≠ name) →
    (∀ other ∈ state.started, ∀ ref ∈ kept.report.changes, other.Leaves ref) →
    after.tactic.strikeResults.get? name = some kept ∧
      ∀ ref ∈ kept.report.changes, after.world.change ref = state.world.change ref

theorem Executed.retains {state after : Execution} {answer : Except TacticError Unit}
    (executed : Executed state (.done answer) after) : Retains state after := by
  cases executed with
  | @returned looped cleaned event loop swept =>
    constructor
    case own =>
      intro earlier start later kept world order closed others leaves
      obtain ⟨found, same⟩ := loop.keeps order closed others
      have looped_same : ∀ ref ∈ kept.report.changes,
          looped.world.change ref = world.change ref := by
        intro ref member
        exact same ref fun other after => leaves other after ref member
      have finished := (Start.finished closed).of_same looped_same
      obtain ⟨retained, left⟩ := cleanUp_retains swept found finished
      refine ⟨retained, fun ref member => ?_⟩
      rw [change_concluded, left ref member]
      exact looped_same ref member
    case brought =>
      intro name kept known finished others leaves
      have found : looped.tactic.strikeResults.get? name = some kept := by
        rw [loop.retains others]
        exact known
      have looped_same : ∀ ref ∈ kept.report.changes,
          looped.world.change ref = state.world.change ref := by
        intro ref member
        rw [loop.leaves fun other after => leaves other after ref member]
        exact congrArg (Table.get · ref) state.entered_changes
      obtain ⟨retained, left⟩ := cleanUp_retains swept found (finished.of_same looped_same)
      refine ⟨retained, fun ref member => ?_⟩
      rw [change_concluded, left ref member]
      exact looped_same ref member

theorem Retains.of_refused {state : Execution} (none : state.started = []) : Retains state state where
  own := by
    intro earlier start later kept world order
    simp [none] at order
  brought := fun name kept known finished others leaves => ⟨known, fun ref member => rfl⟩

theorem execute_retains {state after : Execution} {answer : Except TacticError Unit}
    (run : execute state = (.done answer, after)) : Retains state after := by
  cases named : state.tactic.name.isEmpty with
  | true =>
    rw [execute_unnamed named] at run
    cases run
    exact .of_refused (by simp [started, named])
  | false =>
    by_cases fresh : state.tactic.status = .notStarted
    · exact (executed named fresh run).retains
    · rw [execute_again named fresh] at run
      cases run
      exact .of_refused (by simp [started, fresh])

/-- Following a result through comes to its end where no revert function of its changes panics, and what
it leaves stays as it is however often it is followed through again. So an execution, which comes to
its end unless a revert function panics or a body ends the process, leaves the results that it
retains as their own following through left them. -/
theorem followThrough_idempotent :
    (∀ (result : StrikeResult) (world : World),
      ((∀ ref ∈ result.report.changes, (world.change ref).RevertReturns) →
        ∃ kept after, result.followThrough world = (.done kept, after)) ∧
      ∀ kept after, result.followThrough world = (.done kept, after) → kept.Still after) ∧
    ∀ state : Execution,
      (state.world.RevertsReturn → (∀ strike ∈ state.tactic.strikes, strike.RevertsReturn) →
        (∃ answer, (execute state).1 = .done answer) ∨
          ∃ ending, (execute state).1 = .ended ending ∧
            ∃ start ∈ state.started, start.run.1 = .ended ending) ∧
      ∀ answer after, execute state = (.done answer, after) → Retains state after := by
  constructor
  · intro result world
    constructor
    · exact followThrough_returns
    · intro kept after run
      exact (followThrough_done run).finished.still
  · intro state
    constructor
    · intro returns gentle
      by_cases fresh : state.tactic.status = .notStarted
      · rcases execute_returns fresh returns gentle with ⟨answer, done, -⟩ | ended
        · exact .inl ⟨answer, done⟩
        · exact .inr ended
      · cases named : state.tactic.name.isEmpty with
        | true => exact .inl ⟨_, congrArg Prod.fst (execute_unnamed named)⟩
        | false => exact .inl ⟨_, congrArg Prod.fst (execute_again named fresh)⟩
    · exact fun answer after => execute_retains

deriving instance DecidableEq for Reply, ApplyFunction, RevertFunction, Change

instance (start : Start) (ref : Ref Change) : Decidable (start.Leaves ref) :=
  inferInstanceAs (Decidable (_ = _))

def mixedResult : StrikeResult where
  report := { movements := Dict.ofList [
    ("first", { changes := Dict.ofList [
      ("a", ⟨5⟩), ("b", ⟨4⟩), ("c", ⟨3⟩), ("d", ⟨2⟩), ("e", ⟨1⟩), ("f", ⟨0⟩)] }),
    ("second", { changes := Dict.ofList [("a", ⟨1⟩), ("b", ⟨2⟩)] })] }

def trying (name change : String) (reply : Reply) : Strike :=
  passing name "d" [
    .act (.change change change "d" (some (.scripted [reply])) (some (.scripted [.value .null]))),
    .movement { id := none, name := "try", body := [.apply change "svc" .null]
                plan := { description := "d", verdict := .pass "tried"
                          changes := Dict.ofList [(change, change)] } }]

def priorResult : StrikeResult where
  report := { message := "fine", movements := Dict.ofList [
    ("try", { changes := Dict.ofList [("c0", ⟨0⟩)] })] }

/-- A tactic with two such strikes, the second of which fails to apply its change. It comes with the
earlier result. -/
def retaining : Execution where
  world := { changes := ⟨1, [(0, (Change.afterApply {
    name := "c0", description := "d", applier := some (.scripted [])
    reverter := some (.scripted []) } .null).afterRevert)]⟩ }
  tactic := { name := "t", context := { service := "svc", ledger := ⟨0⟩ }, executed := ⟨0⟩
              strikes := [trying "s1" "c1" (.value .null), trying "s2" "c2" (.failure ["refused"])]
              strikeResults := Dict.ofList [("s0", priorResult)] }

theorem priorResult_finished : priorResult.Finished retaining.world where
  filled := by decide +kernel
  settled := by decide +kernel
  judged := if_neg (by decide +kernel)

/-- Both results stay, although the second strike ends in bad state. -/
theorem followThrough_idempotent_retaining :
    (∃ kept after, mixedResult.followThrough Change.mixedWorld = (.done kept, after) ∧
      kept.Still after) ∧
    ∃ answer after start later kept world, execute retaining = (.done answer, after) ∧
      retaining.started = start :: later ∧ start.closed = (.done kept, world) ∧
      after.tactic.strikeResults.get? "s1" = some kept ∧
      (∀ ref ∈ kept.report.changes, after.world.change ref = world.change ref) ∧
      after.tactic.strikeResults.get? "s0" = some priorResult := by
  obtain ⟨idempotent, retains⟩ := followThrough_idempotent
  constructor
  · have returns : ∀ ref ∈ mixedResult.report.changes,
        (Change.mixedWorld.change ref).RevertReturns := by decide +kernel
    obtain ⟨kept, after, run⟩ := (idempotent mixedResult Change.mixedWorld).1 returns
    exact ⟨kept, after, run, (idempotent mixedResult Change.mixedWorld).2 kept after run⟩
  · have done : (execute retaining).1.isDone = true := by decide +kernel
    have first : retaining.started.head?.map (fun start => (start.strike.name,
        start.closed.1.isDone, start.closed.1.map fun kept => kept.report.changes)) =
        some ("s1", true, .done [⟨1⟩]) := by decide +kernel
    have others : ∀ start ∈ retaining.started.tail,
        start.strike.name ≠ "s1" ∧ start.Leaves ⟨1⟩ := by decide +kernel
    have all : ∀ start ∈ retaining.started, start.strike.name ≠ "s0" ∧
        ∀ ref ∈ priorResult.report.changes, start.Leaves ref := by decide +kernel
    obtain ⟨answer, after, run⟩ := Outcome.exists_of_isDone done
    have keeps := (retains retaining).2 answer after run
    obtain ⟨start, order, same⟩ := Option.map_eq_some_iff.mp first
    obtain ⟨later, order⟩ := List.head?_eq_some_iff.mp order
    obtain ⟨name, same⟩ := Prod.mk.inj same
    obtain ⟨ended, changes⟩ := Prod.mk.inj same
    obtain ⟨kept, world, closed⟩ := Outcome.exists_of_isDone ended
    have changes : kept.report.changes = [⟨1⟩] := by
      rw [closed] at changes
      simpa [Outcome.map] using changes
    rw [order, List.tail_cons] at others
    obtain ⟨own, left⟩ := keeps.own [] start later kept world order closed
      (fun other member => name ▸ (others other member).1) (by
        intro other member ref known
        rw [changes] at known
        rw [List.mem_singleton.mp known]
        exact (others other member).2)
    have prior := keeps.brought "s0" priorResult (Dict.get?_insert_self _ _ _) priorResult_finished
      (fun other member => (all other member).1) (fun other member => (all other member).2)
    exact ⟨answer, after, start, later, kept, world, run, order, closed, name ▸ own, left, prior.1⟩

end Raid.Execution
