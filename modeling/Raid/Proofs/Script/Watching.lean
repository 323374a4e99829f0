import Raid.Proofs.Script.Run

/-!
A listener that is triggered reverts the ledger that is watched in its slot. Where no revert function
panics that comes to an end, with every change of the ledger settled; and a watch stays in its slot
while bodies run that fill and clear no slots.
-/

namespace Raid

open Act

namespace World

structure Holds (slot : Ref WatchSlot) (watch : Watch) (world : World) : Prop where
  known : slot.index < world.slots.size
  held : (world.slots.get slot).watch = some watch

variable {slot : Ref WatchSlot} {watch : Watch} {before after : World}

theorem Holds.of_slots (holds : before.Holds slot watch) (same : after.slots = before.slots) :
    after.Holds slot watch := by
  obtain ⟨known, held⟩ := holds
  rw [← same] at known held
  exact ⟨known, held⟩

theorem Holds.of_surroundings (holds : before.Holds slot watch)
    (same : after.surroundings = before.surroundings) : after.Holds slot watch := by
  refine holds.of_slots ?_
  change after.surroundings.slots = before.surroundings.slots
  rw [same]

end World

theorem Footprint.keeping_holds (slot : Ref WatchSlot) (watch : Watch) :
    (Footprint.keeping (World.Holds slot watch)).Hosts { watches := False } where
  emit _ _ := fun _ holds => holds.of_slots rfl
  newChange _ _ := fun _ holds => holds.of_slots rfl
  apply ref targetName input := fun world holds =>
    holds.of_surroundings (Change.apply_surroundings ref targetName input world)
  revert ref := fun world holds =>
    holds.of_surroundings (Change.within_revert ref world).surroundings
  newLedger := fun _ holds => holds.of_slots rfl
  track ledger change := fun world holds => holds.of_slots (by
    simp only [Ledger.track, bind_apply, read_apply]
    split <;> rfl)
  newExecuted _ := fun _ holds => holds.of_slots rfl
  recordExecuted _ _ _ := fun _ holds => holds.of_slots rfl
  newSlot := fun world holds => by
    refine ⟨Nat.lt_succ_of_lt holds.known, ?_⟩
    have same : (Task.newSlot world).2.slots.get slot = world.slots.get slot :=
      Table.get_add_of_ne _ _ (Nat.ne_of_lt holds.known)
    rw [same]
    exact holds.held
  setSlot permitted := permitted.elim
  onBench _ := fun _ holds => holds.of_slots rfl
  files _ _ _ := fun holds => holds.of_slots rfl
  freshIdentifier := fun _ holds => holds.of_slots rfl

theorem Watch.lasts_cleanUp (slot : Ref WatchSlot) (trigger : String) :
    Lasts (Watch.cleanUp slot trigger) := by
  refine lasts_bind (lasts_of_done fun _ => rfl) fun world => ?_
  cases (world.slots.get slot).watch with
  | none => exact lasts_of_done fun _ => rfl
  | some watch =>
    refine lasts_bind (lasts_of_done fun _ => rfl) fun _ =>
      lasts_bind (Ledger.lasts_revertAll watch.ledger) fun failures => ?_
    split <;> exact lasts_of_done fun _ => rfl

/-- Cleaning up settles every change of the ledger that is watched in the slot. -/
theorem Watch.cleanUp_done {slot : Ref WatchSlot} {watch : Watch} {world : World}
    (held : (world.slots.get slot).watch = some watch) (returns : world.RevertsReturn)
    (trigger : String) :
    ∃ after, Watch.cleanUp slot trigger world = (.done (), after) ∧
      ∀ ref ∈ (world.ledger watch.ledger).changes, (after.change ref).Settled := by
  simp only [Watch.cleanUp, bind_apply, read_apply, held, Task.log, Task.emit, change_apply]
  generalize begun : world.journal ++ _ = journal
  have undone := World.Undone.of_journal world journal
  obtain ⟨failures, swept, run⟩ :=
    @Ledger.revertAll_returns watch.ledger _ fun ref _ => returns.of_undone undone ref
  have settled := (Ledger.revertAll_done run).1
  rw [((Ledger.within_revertAll watch.ledger).of_run run).ledger] at settled
  rw [run]
  dsimp only
  split
  · exact ⟨_, rfl, settled⟩
  · exact ⟨_, rfl, settled⟩

end Raid
