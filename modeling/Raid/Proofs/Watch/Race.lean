import Raid.Proofs.Change.Sweep
import Raid.Proofs.Script.Tracking
import Raid.Proofs.Watch.Guards

/-!
An interrupt while a strike is running. The listener looks at the watched ledger once, reverts what it
finds there one change after the other, and ends the process; between any two of these moments the
strike may register, apply and revert changes. A change that the listener has reverted is live at the
end only when the strike made it again.
-/

namespace Raid

open Act

inductive Sweeping where
  | waiting
  /-- It has looked at the ledger, and these changes are left to be reverted. -/
  | reverting (left : List (Ref Change))
  | exited

inductive Beat where
  /-- The strike adds a change to a manager that this ledger backs. -/
  | added (ledger : Option (Ref Ledger)) (ref : Ref Change)
  | applied (ref : Ref Change) (outcome : Outcome (Except ChangeError Json))
  | reverted (ref : Ref Change) (outcome : Outcome (Except ChangeError Unit))
  /-- Something that concerns neither the ledger nor what there is to revert. -/
  | aside
  /-- The listener looks at the ledger. -/
  | looked (refs : List (Ref Change))
  /-- The listener reverts a change. -/
  | swept (ref : Ref Change) (answer : Except ChangeError Unit)
  | exited

namespace Beat

def makes (ref : Ref Change) : Beat → Bool
  | applied other (.done (.ok _)) => other = ref
  | _ => false

def settles (ref : Ref Change) : Beat → Bool
  | reverted other (.done _) => other = ref
  | swept other _ => other = ref
  | _ => false

def swept? : Beat → Option (Ref Change)
  | swept ref _ => some ref
  | _ => none

end Beat

inductive Moves (slot : Ref WatchSlot) (watch : Watch) :
    Sweeping → World → Beat → Sweeping → World → Prop
  | added {phase : Sweeping} {manager kept : ChangeManager} {name : String} {ref : Ref Change}
    {world after : World} (running : phase ≠ .exited)
    (run : manager.add name ref world = (.done kept, after)) :
    Moves slot watch phase world (.added manager.ledger ref) phase after
  | applied {phase : Sweeping} {ref : Ref Change} {targetName : String} {input : Json}
    {world after : World} {outcome : Outcome (Except ChangeError Json)}
    (running : phase ≠ .exited)
    (run : Change.apply ref targetName input world = (outcome, after)) :
    Moves slot watch phase world (.applied ref outcome) phase after
  | reverted {phase : Sweeping} {ref : Ref Change} {world after : World}
    {outcome : Outcome (Except ChangeError Unit)} (running : phase ≠ .exited)
    (run : Change.revert ref world = (outcome, after)) :
    Moves slot watch phase world (.reverted ref outcome) phase after
  | aside {phase : Sweeping} {world after : World} (running : phase ≠ .exited)
    (changes : ∀ ref, (after.change ref).Settled ↔ (world.change ref).Settled)
    (ledger : after.ledger watch.ledger = world.ledger watch.ledger) :
    Moves slot watch phase world .aside phase after
  | looked {world : World} (held : (world.slots.get slot).watch = some watch) :
    Moves slot watch .waiting world (.looked (world.ledger watch.ledger).changes)
      (.reverting (world.ledger watch.ledger).changes) world
  | swept {ref : Ref Change} {left : List (Ref Change)} {world after : World}
    {answer : Except ChangeError Unit} (run : Change.revert ref world = (.done answer, after)) :
    Moves slot watch (.reverting (ref :: left)) world (.swept ref answer) (.reverting left) after
  | exited (world : World) : Moves slot watch (.reverting []) world .exited .exited world

inductive Race (slot : Ref WatchSlot) (watch : Watch) :
    Sweeping → World → List Beat → Sweeping → World → Prop
  | nothing (phase : Sweeping) (world : World) : Race slot watch phase world [] phase world
  | moves {phase next last : Sweeping} {world middle after : World} {beat : Beat} {beats : List Beat}
    (first : Moves slot watch phase world beat next middle)
    (later : Race slot watch next middle beats last after) :
    Race slot watch phase world (beat :: beats) last after

namespace Change

/-- What an apply leaves to be reverted: its change when it succeeds, and all that was so before. -/
theorem apply_pending_iff {ref other : Ref Change} {targetName : String} {input : Json}
    {world after : World} {outcome : Outcome (Except ChangeError Json)}
    (run : apply ref targetName input world = (outcome, after)) :
    ¬(after.change other).Settled ↔
      (Beat.applied ref outcome).makes other = true ∨ ¬(world.change other).Settled := by
  by_cases same : ref = other
  · subst same
    cases apply_cases run with
    | inert bad => simp [Beat.makes]
    | lacking fine lacks => simp [Beat.makes, Settled, withError, Change.live]
    | live fine whole live => simp [Beat.makes, Settled, fine, live]
    | made fine whole idle own call =>
      have called := callApply_called_of_run call
      simp [Beat.makes, Settled, afterApply, Change.live, called.badState, fine]
    | failed fine whole idle own call => simp [Beat.makes, Settled, spoiled, idle]
    | panicked fine whole idle own call =>
      have called := callApply_called_of_run call
      simp [Beat.makes, Settled, called.live, idle]
  · have kept := ((Operation.apply targetName input).others world (Ne.symm same)).2.2
    rw [Operation.after, run] at kept
    have quiet : (Beat.applied ref outcome).makes other = false := by
      unfold Beat.makes
      split
      · rename_i equal
        cases equal
        exact decide_eq_false same
      · rfl
    simp [kept, quiet]

/-- What a revert leaves to be reverted: all that was so before, but for its change when it comes to an
answer. -/
theorem revert_pending_iff {ref other : Ref Change} {world after : World}
    {outcome : Outcome (Except ChangeError Unit)} (run : revert ref world = (outcome, after)) :
    ¬(after.change other).Settled ↔
      ¬(world.change other).Settled ∧ (Beat.reverted ref outcome).settles other = false := by
  by_cases same : ref = other
  · subst same
    cases outcome with
    | done answer => simp [Beat.settles, (revert_done run).1]
    | panicked payload =>
      have left := (revert_panicked run).1
      cases revert_cases run with
      | panicked pending own call => simp [Beat.settles, pending, left]
    | ended ending => exact absurd run (lasts_revert ref).not_ended
  · have kept := (Operation.revert.others world (Ne.symm same)).2.2
    rw [Operation.after, run] at kept
    have quiet : (Beat.reverted ref outcome).settles other = false := by
      cases outcome <;> simp [Beat.settles, same]
    simp [kept, quiet]

end Change

namespace Moves

variable {slot : Ref WatchSlot} {watch : Watch} {phase next : Sweeping} {world after : World}
  {beat : Beat}

theorem noted (running : phase ≠ .exited) (event : Event) (world : World) :
    Moves slot watch phase world .aside phase
      { world with journal := world.journal ++ [event] } :=
  .aside running (fun _ => Iff.rfl) rfl

/-- Only an apply that succeeds leaves something to be reverted, and only a revert that comes to an
answer takes it away. -/
theorem pending_iff (moves : Moves slot watch phase world beat next after) (ref : Ref Change) :
    ¬(after.change ref).Settled ↔
      beat.makes ref = true ∨ (¬(world.change ref).Settled ∧ beat.settles ref = false) := by
  cases moves with
  | added running run =>
    rw [ChangeManager.add_change run ref]
    simp [Beat.makes, Beat.settles]
  | applied running run => simpa [Beat.settles] using Change.apply_pending_iff run
  | reverted running run => simpa [Beat.makes] using Change.revert_pending_iff run
  | aside running changes ledger =>
    rw [changes ref]
    simp [Beat.makes, Beat.settles]
  | looked held => simp [Beat.makes, Beat.settles]
  | swept run => simpa [Beat.makes, Beat.settles] using @Change.revert_pending_iff _ ref _ _ _ run
  | exited world => simp [Beat.makes, Beat.settles]

theorem registered (moves : Moves slot watch phase world beat next after) {ref : Ref Change}
    (member : ref ∈ (world.ledger watch.ledger).changes) :
    ref ∈ (after.ledger watch.ledger).changes := by
  cases moves with
  | added running run => exact ChangeManager.add_keeps run member
  | @applied _ own targetName input _ _ _ running run =>
    have same := Change.apply_surroundings own targetName input world
    rw [run] at same
    rwa [World.ledger_of_surroundings same]
  | reverted running run =>
    rwa [((Change.within_revert _).of_run run).ledger]
  | aside running changes ledger => rwa [ledger]
  | looked held => exact member
  | swept run => rwa [((Change.within_revert _).of_run run).ledger]
  | exited world => exact member

theorem added_registered {ref : Ref Change}
    (moves : Moves slot watch phase world (.added (some watch.ledger) ref) next after) :
    ref ∈ (after.ledger watch.ledger).changes := by
  generalize same : Beat.added (some watch.ledger) ref = beat at moves
  cases moves with
  | added running run =>
    obtain ⟨backed, rfl⟩ := Beat.added.inj same
    exact ChangeManager.add_tracks backed.symm run
  | applied running run => cases same
  | reverted running run => cases same
  | aside running changes ledger => cases same
  | looked held => cases same
  | swept run => cases same
  | exited world => cases same

/-- While the listener waits, it goes on waiting or looks at the ledger. -/
theorem waiting (moves : Moves slot watch .waiting world beat next after) :
    next = .waiting ∨ (beat = .looked (world.ledger watch.ledger).changes ∧
      next = .reverting (world.ledger watch.ledger).changes ∧ after = world) := by
  cases moves with
  | added running run => exact .inl rfl
  | applied running run => exact .inl rfl
  | reverted running run => exact .inl rfl
  | aside running changes ledger => exact .inl rfl
  | looked held => exact .inr ⟨rfl, rfl, rfl⟩

/-- While changes are left, the listener reverts the next one, or leaves them as they are. -/
theorem sweeping {left : List (Ref Change)}
    (moves : Moves slot watch (.reverting left) world beat next after) :
    (next = .reverting left ∧ beat.swept? = none) ∨
    (∃ ref answer rest, left = ref :: rest ∧ next = .reverting rest ∧ beat = .swept ref answer ∧
      (after.change ref).Settled) ∨
    (left = [] ∧ next = .exited ∧ beat.swept? = none) := by
  cases moves with
  | added running run => exact .inl ⟨rfl, rfl⟩
  | applied running run => exact .inl ⟨rfl, rfl⟩
  | reverted running run => exact .inl ⟨rfl, rfl⟩
  | aside running changes ledger => exact .inl ⟨rfl, rfl⟩
  | swept run => exact .inr (.inl ⟨_, _, _, rfl, rfl, rfl, (Change.revert_done run).1⟩)
  | exited world => exact .inr (.inr ⟨rfl, rfl, rfl⟩)

end Moves

/-- The change is made, and not settled any more after that. -/
def Standing (ref : Ref Change) (beats : List Beat) : Prop :=
  ∃ before made rest, beats = before ++ made :: rest ∧ made.makes ref = true ∧
    ∀ beat ∈ rest, beat.settles ref = false

theorem standing_cons {ref : Ref Change} {beat : Beat} {beats : List Beat} :
    Standing ref (beat :: beats) ↔
      Standing ref beats ∨ (beat.makes ref = true ∧ ∀ other ∈ beats, other.settles ref = false) := by
  constructor
  · rintro ⟨before, made, rest, cut, makes, quiet⟩
    cases before with
    | nil =>
      cases cut
      exact .inr ⟨makes, quiet⟩
    | cons head before =>
      cases cut
      exact .inl ⟨before, made, rest, rfl, makes, quiet⟩
  · rintro (⟨before, made, rest, rfl, makes, quiet⟩ | ⟨makes, quiet⟩)
    · exact ⟨beat :: before, made, rest, rfl, makes, quiet⟩
    · exact ⟨[], beat, beats, rfl, makes, quiet⟩

theorem not_standing_nil {ref : Ref Change} : ¬Standing ref [] := by
  rintro ⟨before, made, rest, cut, -⟩
  simp at cut

namespace Race

variable {slot : Ref WatchSlot} {watch : Watch} {phase next last : Sweeping}
  {world middle after : World} {beats later : List Beat}

/-- There is something to be reverted of a change just when it was made and not settled after that, or
was there from the beginning and never settled. -/
theorem pending_iff (race : Race slot watch phase world beats last after) (ref : Ref Change) :
    ¬(after.change ref).Settled ↔ Standing ref beats ∨
      (¬(world.change ref).Settled ∧ ∀ beat ∈ beats, beat.settles ref = false) := by
  induction race with
  | nothing phase world => simp [not_standing_nil]
  | moves first later ih =>
    -- What is pending after the first moment was made by it, or was pending before and not settled.
    rw [ih, first.pending_iff ref, standing_cons, List.forall_mem_cons]
    grind

theorem append (race : Race slot watch phase world beats next middle)
    (going : Race slot watch next middle later last after) :
    Race slot watch phase world (beats ++ later) last after := by
  induction race with
  | nothing phase world => exact going
  | moves first rest ih => exact .moves first (ih going)

theorem of_exited (race : Race slot watch .exited world beats last after) : beats = [] := by
  cases race with
  | nothing => rfl
  | moves first later => cases first <;> contradiction

/-- What was registered in the watched ledger or is added to it is registered there at the end. -/
theorem registered (race : Race slot watch phase world beats last after) {ref : Ref Change}
    (tracked : ref ∈ (world.ledger watch.ledger).changes ∨
      .added (some watch.ledger) ref ∈ beats) : ref ∈ (after.ledger watch.ledger).changes := by
  induction race with
  | nothing phase world => exact tracked.resolve_right List.not_mem_nil
  | moves first later ih =>
    refine ih ?_
    rcases tracked with member | added
    · exact .inl (first.registered member)
    · rcases List.mem_cons.mp added with rfl | added
      · exact .inl first.added_registered
      · exact .inr added

/-- A race that comes to the exit comes to the moment at which the listener looks at the ledger. -/
theorem looked (race : Race slot watch .waiting world beats .exited after) :
    ∃ earlier middle later, beats = earlier ++ .looked (middle.ledger watch.ledger).changes :: later ∧
      Race slot watch .waiting world earlier .waiting middle ∧
      Race slot watch (.reverting (middle.ledger watch.ledger).changes) middle later .exited after := by
  generalize start : Sweeping.waiting = phase at race
  generalize goal : Sweeping.exited = last at race
  induction race with
  | nothing phase world =>
    rw [← start] at goal
    cases goal
  | @moves phase next last world middle after beat beats first later ih =>
    subst start goal
    rcases first.waiting with rfl | ⟨rfl, rfl, rfl⟩
    · obtain ⟨earlier, point, rest, rfl, way, race⟩ := ih rfl rfl
      exact ⟨beat :: earlier, point, rest, rfl, .moves first way, race⟩
    · exact ⟨[], middle, beats, rfl, .nothing _ _, later⟩

/-- The listener reverts all that it has to revert, in turn. From then on a change is settled but when
the strike makes it again. -/
theorem swept {left : List (Ref Change)}
    (race : Race slot watch (.reverting left) world beats .exited after) :
    beats.filterMap Beat.swept? = left ∧
      ∀ ref ∈ left, ∃ before answer rest, beats = before ++ .swept ref answer :: rest ∧
        (¬(after.change ref).Settled ↔ Standing ref rest) := by
  generalize start : Sweeping.reverting left = phase at race
  generalize goal : Sweeping.exited = last at race
  induction race generalizing left with
  | nothing phase world =>
    rw [← start] at goal
    cases goal
  | @moves phase next last world middle after beat beats first later ih =>
    subst start goal
    rcases first.sweeping with ⟨rfl, none⟩ | ⟨ref, answer, rest, rfl, rfl, rfl, settled⟩ |
      ⟨rfl, rfl, none⟩
    · obtain ⟨order, each⟩ := ih rfl rfl
      refine ⟨by rw [List.filterMap_cons_none none, order], fun ref member => ?_⟩
      obtain ⟨before, answer, rest, rfl, standing⟩ := each ref member
      exact ⟨beat :: before, answer, rest, rfl, standing⟩
    · obtain ⟨order, each⟩ := ih rfl rfl
      refine ⟨congrArg (ref :: ·) order, List.forall_mem_cons.mpr ⟨?_, ?_⟩⟩
      · -- Its revert has come to an answer, so that only what the strike does later counts.
        exact ⟨[], answer, beats, rfl, by simp [later.pending_iff ref, settled]⟩
      · intro other member
        obtain ⟨before, answer', rest, rfl, standing⟩ := each other member
        exact ⟨_ :: before, answer', rest, rfl, standing⟩
    · rw [List.filterMap_cons_none none, later.of_exited]
      exact ⟨rfl, fun _ member => nomatch member⟩

/-- What an interrupt leaves of a running strike, in whatever way the two are interleaved. Before the
exit the listener looks at the ledger, in which all is that was added to it until then, and reverts what
it finds there, each change in its turn. At the exit such a change is in bad state or not live, unless the
strike has made it again after that. Of every change there is something to be reverted at the exit just
when it was made and not settled after that, or was there from the beginning and never settled. -/
theorem pending_at_exit (race : Race slot watch .waiting world beats .exited after) :
    ∃ earlier refs later, beats = earlier ++ .looked refs :: later ∧
      (∀ ref, ref ∈ (world.ledger watch.ledger).changes ∨
        .added (some watch.ledger) ref ∈ earlier → ref ∈ refs) ∧
      later.filterMap Beat.swept? = refs ∧
      (∀ ref ∈ refs, ∃ before answer rest, later = before ++ .swept ref answer :: rest ∧
        (¬(after.change ref).Settled ↔ Standing ref rest)) ∧
      ∀ ref, ¬(after.change ref).Settled ↔ Standing ref beats ∨
        (¬(world.change ref).Settled ∧ ∀ beat ∈ beats, beat.settles ref = false) := by
  obtain ⟨earlier, middle, later, cut, way, rest⟩ := race.looked
  obtain ⟨order, each⟩ := rest.swept
  exact ⟨earlier, _, later, cut, fun ref tracked => way.registered tracked, order, each,
    race.pending_iff⟩

/-- What a manager does to apply a change is a part of a race. -/
theorem of_manager_apply (running : phase ≠ .exited) {manager : ChangeManager}
    {name targetName : String} {input : Json} {outcome : Outcome (Option Json × ChangeManager)}
    (run : manager.apply name targetName input world = (outcome, after)) :
    ∃ beats, Race slot watch phase world beats phase after := by
  cases allowed : manager.allowed with
  | false =>
    simp only [ChangeManager.apply, allowed, Bool.not_false, ↓reduceIte] at run
    cases run
    exact ⟨_, .moves (.noted running _ world) (.nothing _ _)⟩
  | true =>
    cases known : manager.changes.get? name with
    | none =>
      simp only [ChangeManager.apply, allowed, known, Bool.not_true, Bool.false_eq_true,
        ↓reduceIte] at run
      cases run
      exact ⟨_, .nothing _ _⟩
    | some ref =>
      simp only [ChangeManager.apply, allowed, known, Bool.not_true, Bool.false_eq_true,
        ↓reduceIte, bind_apply] at run
      cases applied : Change.apply ref targetName input world with
      | mk answer middle =>
        rw [applied] at run
        have rest : ∃ beats, Race slot watch phase middle beats phase after := by
          cases answer with
          | done answer =>
            cases answer with
            | ok target => cases run; exact ⟨_, .nothing _ _⟩
            | error error => cases run; exact ⟨_, .moves (.noted running _ middle) (.nothing _ _)⟩
          | panicked payload => cases run; exact ⟨_, .nothing _ _⟩
          | ended ending => cases run; exact ⟨_, .nothing _ _⟩
        obtain ⟨beats, rest⟩ := rest
        exact ⟨_, .moves (.applied running applied) rest⟩

theorem of_manager_revert (running : phase ≠ .exited) {manager : ChangeManager} {name : String}
    {outcome : Outcome (Except ChangeError Unit × ChangeManager)}
    (run : manager.revert name world = (outcome, after)) :
    ∃ beats, Race slot watch phase world beats phase after := by
  cases known : manager.changes.get? name with
  | none =>
    simp only [ChangeManager.revert, known] at run
    cases run
    exact ⟨_, .nothing _ _⟩
  | some ref =>
    simp only [ChangeManager.revert, known, bind_apply] at run
    cases reverted : Change.revert ref world with
    | mk answer middle =>
      rw [reverted] at run
      have same : middle = after := by
        cases answer with
        | done answer => cases answer <;> cases run <;> rfl
        | panicked payload => cases run; rfl
        | ended ending => cases run; rfl
      subst same
      exact ⟨_, .moves (.reverted running reverted) (.nothing _ _)⟩

theorem of_swept {pass : List Change.Reversion} (swept : Change.Swept world pass after) :
    ∃ beats, Race slot watch (.reverting (Change.refsOf pass)) world beats (.reverting []) after := by
  induction swept with
  | nothing world => exact ⟨_, .nothing _ _⟩
  | @noted world after event pass quiet later ih =>
    obtain ⟨beats, race⟩ := ih
    exact ⟨_, .moves (.noted Sweeping.noConfusion event world) race⟩
  | reverted run later ih =>
    obtain ⟨beats, race⟩ := ih
    exact ⟨_, .moves (.swept run) race⟩

/-- Cleaning up is a race in which the listener runs alone. -/
theorem of_cleanUp {trigger : String} (held : (world.slots.get slot).watch = some watch)
    (run : Watch.cleanUp slot trigger world = (.done (), after)) :
    ∃ beats, Race slot watch .waiting world beats .exited after := by
  obtain ⟨opening, closing, same, closes⟩ := Watch.reverts_of_held held trigger
  rw [same] at run
  obtain ⟨_, opened, noted, run⟩ := bind_eq_done run
  cases noted
  obtain ⟨failures, swept, reverted, run⟩ := bind_eq_done run
  obtain ⟨entry, closed⟩ := closes failures
  rw [closed] at run
  cases run
  obtain ⟨pass, reverts, refs, -⟩ := Change.revertEach_swept reverted
  obtain ⟨beats, race⟩ := @of_swept slot watch _ _ _ reverts
  rw [refs] at race
  exact ⟨_, .moves (.noted Sweeping.noConfusion _ world) (.moves (.looked held)
    (race.append (.moves (.noted Sweeping.noConfusion _ swept) (.moves (.exited _) (.nothing _ _)))))⟩

/-- A listener that ends the process has run such a race, alone. -/
theorem of_trigger {listener : Listener} {label : String} {ending : Ending}
    (held : (world.slots.get listener.slot).watch = some watch)
    (run : listener.trigger label world = (.ended ending, after)) :
    ∃ beats, Race listener.slot watch .waiting world beats .exited after := by
  cases fails : listener.fails with
  | true =>
    simp only [Listener.trigger, fails, ↓reduceIte] at run
    cases run
  | false =>
    simp only [Listener.trigger, fails, Bool.false_eq_true, ↓reduceIte, bind_apply, caught] at run
    cases cleaned : Watch.cleanUp listener.slot label world with
    | mk outcome swept =>
      rw [cleaned] at run
      cases outcome with
      | panicked payload => cases run
      | ended other => exact absurd cleaned (Watch.lasts_cleanUp listener.slot label).not_ended
      | done value =>
        have same : swept = after := by
          cases exits : listener.exits with
          | true => rw [exits] at run; cases run; rfl
          | false => rw [exits] at run; cases run
        subst same
        exact of_cleanUp held cleaned

def ClearAtExit (watch : Watch) (after : World) : Prop :=
  ∀ ref ∈ (after.ledger watch.ledger).changes, (after.change ref).Settled

def contested : World :=
  let change (name : String) (applied : Bool) : Change :=
    { name, description := "d", applier := some (.scripted []), reverter := some (.scripted [])
      applied }
  { changes := ⟨2, [(0, change "c1" true), (1, change "c2" false)]⟩
    ledgers := ⟨1, [(0, ⟨[⟨0⟩]⟩)]⟩, slots := ⟨1, [(0, ⟨some ⟨"t", ⟨0⟩⟩⟩)]⟩ }

def addedLate : List Beat := [
  .looked [⟨0⟩], .added (some ⟨0⟩) ⟨1⟩, .applied ⟨1⟩ (.done (.ok .null)), .swept ⟨0⟩ (.ok ()),
  .exited]

def madeAgain : List Beat := [
  .looked [⟨0⟩], .swept ⟨0⟩ (.ok ()), .applied ⟨0⟩ (.done (.ok .null)), .exited]

theorem race_addedLate :
    ∃ after, Race ⟨0⟩ ⟨"t", ⟨0⟩⟩ .waiting contested addedLate .exited after :=
  Exists.intro _ <|
    .moves (.looked rfl) <|
    .moves (@Moves.added _ _ _ { allowed := true, ledger := some ⟨0⟩ } _ "c2" _ _ _ nofun rfl) <|
    .moves (@Moves.applied _ _ _ _ "svc" .null _ _ _ nofun rfl) <|
    .moves (.swept rfl) <| .moves (.exited _) (.nothing _ _)

theorem race_madeAgain :
    ∃ after, Race ⟨0⟩ ⟨"t", ⟨0⟩⟩ .waiting contested madeAgain .exited after :=
  Exists.intro _ <|
    .moves (.looked rfl) <| .moves (.swept rfl) <|
    .moves (@Moves.applied _ _ _ _ "svc" .null _ _ _ nofun rfl) <|
    .moves (.exited _) (.nothing _ _)

/-- The change that the listener found is settled at the exit. -/
theorem pending_at_exit_addedLate :
    ∃ after, Race ⟨0⟩ ⟨"t", ⟨0⟩⟩ .waiting contested addedLate .exited after ∧
      (after.change ⟨0⟩).Settled := by
  obtain ⟨after, race⟩ := race_addedLate
  obtain ⟨earlier, refs, later, cut, registered, order, each, -⟩ := pending_at_exit race
  obtain ⟨before, answer, rest, rfl, standing⟩ := each ⟨0⟩ (registered ⟨0⟩ (.inl (by decide)))
  have unmade : ∀ beat ∈ addedLate, beat.makes ⟨0⟩ = false := by decide
  refine ⟨after, race, Decidable.not_not.mp fun pending => ?_⟩
  obtain ⟨first, made, last, rfl, makes, -⟩ := standing.mp pending
  rw [cut] at unmade
  simp [unmade made (by simp)] at makes

/-- A change that is added late, and one that is made again, are live at the exit. -/
theorem not_clearAtExit :
    (¬∀ after, Race ⟨0⟩ ⟨"t", ⟨0⟩⟩ .waiting contested addedLate .exited after →
      ClearAtExit ⟨"t", ⟨0⟩⟩ after) ∧
    ¬∀ after, Race ⟨0⟩ ⟨"t", ⟨0⟩⟩ .waiting contested madeAgain .exited after →
      ClearAtExit ⟨"t", ⟨0⟩⟩ after := by
  refine ⟨fun clear => ?_, fun clear => ?_⟩
  · obtain ⟨after, race⟩ := race_addedLate
    have pending := (race.pending_iff ⟨1⟩).mpr
      (.inl ⟨addedLate.take 2, _, addedLate.drop 3, rfl, rfl, by decide⟩)
    exact pending (clear after race ⟨1⟩ (race.registered (.inr (.tail _ (.head _)))))
  · obtain ⟨after, race⟩ := race_madeAgain
    have pending := (race.pending_iff ⟨0⟩).mpr
      (.inl ⟨madeAgain.take 2, _, madeAgain.drop 3, rfl, rfl, by decide⟩)
    exact pending (clear after race ⟨0⟩ (race.registered (.inl (by decide))))

end Race

end Raid
