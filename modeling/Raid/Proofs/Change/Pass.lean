import Raid.Ledger
import Raid.Proofs.Change.Transition

/-!
Passes over many changes. A pass goes on after a failure and stops at a panic only; when it comes to
its end all its changes are settled, and it reports a failure just when one of them is in bad
state. Passes keep to the footprint of a revert, so that what one pass settled the next leaves
alone.
-/

namespace Raid

open Act

theorem Task.within_emit (event : Event) : Within .undoing (Task.emit event) :=
  within_change fun world => World.Undone.of_journal world _

/-- The work comes to the value and does nothing but note events that are no calls. -/
def Task.Notes {α : Type} (work : Task α) (value : α) (world : World) : Prop :=
  ∃ events, (∀ event ∈ events, event.isCall = false) ∧
    work world = (.done value, { world with journal := world.journal ++ events })

namespace Task

variable {α β : Type} {value : α} {world : World}

theorem notes_pure (value : α) (world : World) : (pure value : Task α).Notes value world :=
  ⟨[], by simp, by rw [List.append_nil]; rfl⟩

theorem notes_emit {event : Event} (quiet : event.isCall = false) (world : World) :
    (emit event).Notes () world := ⟨[event], by simpa using quiet, rfl⟩

theorem notes_look (f : World → α) (world : World) :
    Notes (fun world => (.done (f world), world)) (f world) world :=
  ⟨[], by simp, by rw [List.append_nil]⟩

theorem notes_onBench {f : Bench → Bench} (same : f world.bench = world.bench) :
    (onBench f).Notes () world :=
  ⟨[], by simp, by rw [List.append_nil, onBench, change_apply, same]⟩

theorem Notes.bind {work : Task α} {next : α → Task β} {last : β} (begun : work.Notes value world)
    (rest : ∀ journal, (next value).Notes last { world with journal := journal }) :
    (work >>= next).Notes last world := by
  obtain ⟨events, quiet, run⟩ := begun
  obtain ⟨later, quiet', run'⟩ := rest (world.journal ++ events)
  refine ⟨events ++ later, List.forall_mem_append.mpr ⟨quiet, quiet'⟩, ?_⟩
  rw [bind_apply, run, ← List.append_assoc]
  exact run'

end Task

namespace Change

/-- A pass stays within whatever allows its reverts and its words in the log. -/
theorem within_revertEach_of {F : Footprint World} (reverts : ∀ ref, Within F (revert ref))
    (notes : ∀ event, event.isCall = false → Within F (Task.emit event)) (area : LogArea)
    (heading : String) (refs : List (Ref Change)) : Within F (revertEach area heading refs) := by
  induction refs with
  | nil => exact within_pure []
  | cons ref rest ih =>
    refine within_bind (reverts ref) ?_
    intro answer
    cases answer with
    | ok value => exact ih
    | error error =>
      exact within_bind (within_look _) fun name =>
        within_bind (notes _ rfl) fun _ =>
          within_bind ih fun others => within_pure (error :: others)

theorem within_revertEach (area : LogArea) (heading : String) (refs : List (Ref Change)) :
    Within .undoing (revertEach area heading refs) :=
  within_revertEach_of within_revert (fun event _ => Task.within_emit event) area heading refs

theorem lasts_revertEach (area : LogArea) (heading : String) (refs : List (Ref Change)) :
    Lasts (revertEach area heading refs) := by
  induction refs with
  | nil => exact lasts_pure []
  | cons ref rest ih =>
    refine lasts_bind (lasts_revert ref) fun answer => ?_
    cases answer with
    | ok value => exact ih
    | error error =>
      exact lasts_bind (lasts_of_done fun _ => rfl) fun name =>
        lasts_bind (lasts_of_done fun _ => rfl) fun _ =>
          lasts_bind ih fun others => lasts_pure (error :: others)

/-- A pass that comes to its end has settled its changes. It reports failures just when one of them
is in bad state. -/
theorem revertEach_done {area : LogArea} {heading : String} {refs : List (Ref Change)}
    {world after : World} {failures : List ChangeError}
    (run : revertEach area heading refs world = (.done failures, after)) :
    (∀ ref ∈ refs, (after.change ref).Settled) ∧
      (failures.isEmpty = false ↔ ∃ ref ∈ refs, (after.change ref).badState = true) := by
  induction refs generalizing world failures with
  | nil =>
    cases run
    simp
  | cons ref rest ih =>
    obtain ⟨answer, middle, first, run⟩ := bind_eq_done run
    obtain ⟨settled, bad⟩ := revert_done first
    cases answer with
    | ok value =>
      have undone := (within_revertEach area heading rest).of_run run
      obtain ⟨others, failed⟩ := ih run
      refine ⟨List.forall_mem_cons.mpr ⟨undone.settled_after settled, others⟩, ?_⟩
      simp [failed, undone.bad_iff settled, bad]
    | error error =>
      obtain ⟨name, _, named, run⟩ := bind_eq_done run
      cases named
      obtain ⟨_, logged, noted, run⟩ := bind_eq_done run
      obtain ⟨found, final, rested, run⟩ := bind_eq_done run
      cases run
      have undone := Footprint.undoing.trans ((Task.within_emit _).of_run noted)
        ((within_revertEach area heading rest).of_run rested)
      refine ⟨List.forall_mem_cons.mpr ⟨undone.settled_after settled, (ih rested).1⟩, ?_⟩
      simp [undone.bad_iff settled, bad]

/-- A pass stops at a change whose function panicked, and leaves that one live. -/
theorem revertEach_panicked {area : LogArea} {heading : String} {refs : List (Ref Change)}
    {world after : World} {payload : Payload}
    (run : revertEach area heading refs world = (.panicked payload, after)) :
    (∃ ref ∈ refs, ¬(after.change ref).Settled) ∧
      ¬∀ ref ∈ refs, (world.change ref).RevertReturns := by
  induction refs generalizing world with
  | nil => cases run
  | cons ref rest ih =>
    rcases bind_eq_panicked run with first | ⟨answer, middle, first, run⟩
    · obtain ⟨pending, loud⟩ := revert_panicked first
      exact ⟨⟨ref, List.mem_cons_self, pending⟩, fun gentle => loud (gentle ref List.mem_cons_self)⟩
    · have undone := (within_revert ref).of_run first
      have later : ∃ second, Footprint.undoing.allows world second ∧
          revertEach area heading rest second = (.panicked payload, after) := by
        cases answer with
        | ok value => exact ⟨middle, undone, run⟩
        | error error =>
          rcases bind_eq_panicked run with named | ⟨name, _, named, run⟩
          · cases named
          · cases named
            rcases bind_eq_panicked run with noted | ⟨_, logged, noted, run⟩
            · cases noted
            · rcases bind_eq_panicked run with rested | ⟨found, final, -, run⟩
              · exact ⟨logged, Footprint.undoing.trans undone
                  ((Task.within_emit _).of_run noted), rested⟩
              · cases run
      obtain ⟨second, undone, run⟩ := later
      obtain ⟨⟨other, member, pending⟩, loud⟩ := ih run
      refine ⟨⟨other, List.mem_cons_of_mem ref member, pending⟩, fun gentle => loud ?_⟩
      exact fun other member => undone.returns other (gentle other (List.mem_cons_of_mem ref member))

/-- Where no revert function of its changes panics, a pass comes to its end. -/
theorem revertEach_returns (area : LogArea) (heading : String) {refs : List (Ref Change)}
    {world : World} (returns : ∀ ref ∈ refs, (world.change ref).RevertReturns) :
    ∃ failures after, revertEach area heading refs world = (.done failures, after) := by
  cases run : revertEach area heading refs world with
  | mk outcome after =>
    cases outcome with
    | done failures => exact ⟨failures, after, rfl⟩
    | panicked payload => exact absurd returns (revertEach_panicked run).2
    | ended ending => exact absurd run (lasts_revertEach area heading refs).not_ended

theorem revertEach_cons {area : LogArea} {heading : String} {ref : Ref Change}
    {rest : List (Ref Change)} {world middle : World} {answer : Except ChangeError Unit}
    (run : revert ref world = (.done answer, middle))
    (goes : ∀ journal, ∃ failures journal',
      revertEach area heading rest { middle with journal := journal } =
        (.done failures, { middle with journal := journal' })) :
    ∃ failures journal, revertEach area heading (ref :: rest) world =
      (.done failures, { middle with journal := journal }) := by
  cases answer with
  | ok value =>
    simp only [revertEach, bind_apply, run]
    exact goes middle.journal
  | error error =>
    obtain ⟨others, journal, rested⟩ := goes (middle.journal ++ [.logged ⟨.error, area,
      ("message", .text heading) ::
        [("change", .text (middle.change ref).name), ("error", .text error.message)]⟩])
    refine ⟨error :: others, journal, ?_⟩
    simp only [revertEach, bind_apply, run, nameOf, Task.log, Task.emit, change_apply]
    rw [rested]
    rfl

theorem notes_revert {ref : Ref Change} {world : World} (settled : (world.change ref).Settled) :
    (revert ref).Notes (if (world.change ref).badState then .error (world.change ref).inertError
      else .ok ()) world := by
  refine ⟨[], by simp, ?_⟩
  rw [List.append_nil]
  cases bad : (world.change ref).badState with
  | true =>
    simp only [revert, bind_apply, read_apply, bad, ↓reduceIte]
    rfl
  | false =>
    have idle : (world.change ref).live = false := settled.resolve_left (by simp [bad])
    exact revert_idle bad idle

/-- A pass over changes that are settled does nothing but write in the log, and returns an error for
each of them that is inert. -/
theorem notes_revertEach (area : LogArea) (heading : String) {refs : List (Ref Change)}
    {world : World} (settled : ∀ ref ∈ refs, (world.change ref).Settled) :
    (revertEach area heading refs).Notes ((refs.filter fun ref => (world.change ref).badState).map
      fun ref => (world.change ref).inertError) world := by
  induction refs generalizing world with
  | nil => exact Task.notes_pure [] world
  | cons ref rest ih =>
    obtain ⟨first, later⟩ := List.forall_mem_cons.mp settled
    apply Task.Notes.bind (notes_revert first)
    intro journal
    have rested (journal : List Event) := @ih { world with journal := journal } later
    cases bad : (world.change ref).badState with
    | false =>
      rw [List.filter_cons_of_neg (by simp [bad])]
      exact rested journal
    | true =>
      simp only [List.filter_cons, bad, ↓reduceIte, List.map_cons]
      apply Task.Notes.bind (Task.notes_look _ _)
      intro journal
      apply Task.Notes.bind (Task.notes_emit rfl _)
      intro journal
      exact Task.Notes.bind (rested journal) fun journal => Task.notes_pure _ _

theorem revertEach_settled (area : LogArea) (heading : String) {refs : List (Ref Change)}
    {world : World} (settled : ∀ ref ∈ refs, (world.change ref).Settled) :
    ∃ failures journal, revertEach area heading refs world =
      (.done failures, { world with journal := journal }) := by
  obtain ⟨events, -, run⟩ := notes_revertEach area heading settled
  exact ⟨_, _, run⟩

end Change

namespace Ledger

theorem within_revertAll (ledger : Ref Ledger) : Within .undoing (revertAll ledger) :=
  within_bind within_read fun _ => Change.within_revertEach _ _ _

theorem lasts_revertAll (ledger : Ref Ledger) : Lasts (revertAll ledger) :=
  lasts_bind (lasts_of_done fun _ => rfl) fun _ => Change.lasts_revertEach _ _ _

theorem revertAll_done {ledger : Ref Ledger} {world after : World} {failures : List ChangeError}
    (run : revertAll ledger world = (.done failures, after)) :
    (∀ ref ∈ (after.ledger ledger).changes, (after.change ref).Settled) ∧
      (failures.isEmpty = false ↔
        ∃ ref ∈ (after.ledger ledger).changes, (after.change ref).badState = true) := by
  rw [((within_revertAll ledger).of_run run).ledger ledger]
  exact Change.revertEach_done run

theorem revertAll_panicked {ledger : Ref Ledger} {world after : World} {payload : Payload}
    (run : revertAll ledger world = (.panicked payload, after)) :
    (∃ ref ∈ (after.ledger ledger).changes, ¬(after.change ref).Settled) ∧
      ¬world.RevertsReturn := by
  rw [((within_revertAll ledger).of_run run).ledger ledger]
  obtain ⟨pending, loud⟩ := Change.revertEach_panicked run
  exact ⟨pending, fun gentle => loud fun ref _ => gentle ref⟩

theorem revertAll_returns {ledger : Ref Ledger} {world : World}
    (returns : ∀ ref ∈ (world.ledger ledger).changes, (world.change ref).RevertReturns) :
    ∃ failures after, revertAll ledger world = (.done failures, after) :=
  Change.revertEach_returns .ledger _ returns

theorem revertAll_settled {ledger : Ref Ledger} {world : World}
    (settled : ∀ ref ∈ (world.ledger ledger).changes, (world.change ref).Settled) :
    ∃ failures journal, revertAll ledger world =
      (.done failures, { world with journal := journal }) :=
  Change.revertEach_settled .ledger _ settled

end Ledger

end Raid
