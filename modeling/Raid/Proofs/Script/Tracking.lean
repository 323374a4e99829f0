import Raid.Proofs.Script.Run

/-!
What is registered in a ledger stays registered, whatever a body does. A manager that the ledger backs
registers the changes that are added to it, and a result that it backs registers the changes that its
movements return.
-/

namespace Raid

open Act

namespace World

/-- What is registered in the ledger stays so, where the ledger is one of the world's. -/
structure Tracks (ledger : Ref Ledger) (before after : World) : Prop where
  size : before.ledgers.size ≤ after.ledgers.size
  kept : ledger.index < before.ledgers.size →
    ∀ ref ∈ (before.ledger ledger).changes, ref ∈ (after.ledger ledger).changes

theorem Tracks.of_ledgers {ledger : Ref Ledger} {before after : World}
    (same : after.ledgers = before.ledgers) : Tracks ledger before after := by
  refine ⟨Nat.le_of_eq (by rw [same]), fun _ ref member => ?_⟩
  rw [World.ledger, same]
  exact member

theorem ledgers_of_surroundings {before after : World}
    (same : after.surroundings = before.surroundings) : after.ledgers = before.ledgers := by
  change after.surroundings.ledgers = before.surroundings.ledgers
  rw [same]

end World

def Footprint.tracking (ledger : Ref Ledger) : Footprint World where
  allows := World.Tracks ledger
  refl _ := .of_ledgers rfl
  trans begun ended := by
    refine ⟨Nat.le_trans begun.size ended.size, fun inside ref member => ?_⟩
    exact ended.kept (Nat.lt_of_lt_of_le inside begun.size) ref (begun.kept inside ref member)

namespace Ledger

variable {world : World} {own : Ref Ledger} {ref : Ref Change}

/-- A change that is tracked is registered, and the others of the ledger stay so. -/
theorem track_mem (own : Ref Ledger) (change : Ref Change) (world : World)
    (member : ref = change ∨ ref ∈ (world.ledger own).changes) :
    ref ∈ ((track own change world).2.ledger own).changes := by
  simp only [track, bind_apply, read_apply]
  by_cases known : change ∈ (world.ledger own).changes
  · rw [if_pos known]
    rcases member with rfl | member
    · exact known
    · exact member
  · rw [if_neg known]
    change ref ∈ ((world.ledgers.set own ⟨(world.ledger own).changes ++ [change]⟩).get own).changes
    rw [Table.get_set_self, List.mem_append, List.mem_singleton]
    exact member.symm

theorem track_ledgers (other : Ref Ledger) (change : Ref Change) (world : World)
    (different : own ≠ other) :
    (track other change world).2.ledger own = world.ledger own := by
  simp only [track, bind_apply, read_apply]
  split
  · rfl
  · exact Table.get_set_of_ne _ _ different

theorem track_size (own : Ref Ledger) (change : Ref Change) (world : World) :
    (track own change world).2.ledgers.size = world.ledgers.size := by
  simp only [track, bind_apply, read_apply]
  split <;> rfl

theorem track_done (own : Ref Ledger) (change : Ref Change) (world : World) :
    (track own change world).1 = .done () := by
  simp only [track, bind_apply, read_apply]
  split <;> rfl

theorem trackEach_cons (own : Ref Ledger) (change : Ref Change) (rest : List (Ref Change))
    (world : World) :
    trackEach own (change :: rest) world = trackEach own rest (track own change world).2 := by
  have first := track_done own change world
  cases run : track own change world with
  | mk outcome middle =>
    rw [run] at first
    cases first
    simp only [trackEach, bind_apply, run]

theorem trackEach_done (own : Ref Ledger) (refs : List (Ref Change)) (world : World) :
    (trackEach own refs world).1 = .done () := by
  induction refs generalizing world with
  | nil => rfl
  | cons change rest ih =>
    rw [trackEach_cons]
    exact ih _

theorem trackEach_mem {refs : List (Ref Change)}
    (member : ref ∈ refs ∨ ref ∈ (world.ledger own).changes) :
    ref ∈ ((trackEach own refs world).2.ledger own).changes := by
  induction refs generalizing world with
  | nil => exact member.resolve_left List.not_mem_nil
  | cons change rest ih =>
    rw [trackEach_cons]
    apply ih
    rcases member with member | known
    · rcases List.mem_cons.mp member with same | later
      · exact .inr (track_mem own change world (.inl same))
      · exact .inl later
    · exact .inr (track_mem own change world (.inr known))

end Ledger

theorem Ledger.within_track (own other : Ref Ledger) (change : Ref Change) :
    Within (.tracking own) (track other change) := by
  refine fun world => ⟨Nat.le_of_eq (track_size other change world).symm, fun _ ref member => ?_⟩
  by_cases same : own = other
  · subst same
    exact track_mem own change world (.inr member)
  · rw [track_ledgers other change world same]
    exact member

theorem Footprint.tracking_hosts (own : Ref Ledger) : (Footprint.tracking own).Hosts {} where
  emit _ _ := fun _ => .of_ledgers rfl
  newChange _ _ := fun _ => .of_ledgers rfl
  apply ref targetName input := fun world =>
    .of_ledgers (World.ledgers_of_surroundings (Change.apply_surroundings _ _ _ world))
  revert ref := fun world =>
    .of_ledgers (World.ledgers_of_surroundings (Change.within_revert ref world).surroundings)
  newLedger := fun world => by
    refine ⟨Nat.le_succ _, fun inside ref member => ?_⟩
    have same : (Task.newLedger world).2.ledger own = world.ledger own :=
      Table.get_add_of_ne _ _ (Nat.ne_of_lt inside)
    rw [same]
    exact member
  track := Ledger.within_track own
  newExecuted _ := fun _ => .of_ledgers rfl
  recordExecuted _ _ _ := fun _ => .of_ledgers rfl
  newSlot := fun _ => .of_ledgers rfl
  setSlot _ _ _ := fun _ => .of_ledgers rfl
  onBench _ := fun _ => .of_ledgers rfl
  files _ _ _ := .of_ledgers rfl
  freshIdentifier := fun _ => .of_ledgers rfl

namespace ChangeManager

/-- What adding a change does to the world: the change is tracked where a ledger backs the manager. -/
theorem add_world {manager kept : ChangeManager} {name : String} {ref : Ref Change}
    {world after : World} (run : manager.add name ref world = (.done kept, after)) :
    ∃ journal, after = match manager.ledger with
      | some ledger => { (Ledger.track ledger ref world).2 with journal := journal }
      | none => { world with journal := journal } := by
  cases backed : manager.ledger with
  | none =>
    simp only [add, backed, Task.log] at run
    split at run <;> cases run <;> exact ⟨_, rfl⟩
  | some ledger =>
    simp only [add, backed] at run
    obtain ⟨_, tracked, track, run⟩ := bind_eq_done run
    dsimp only
    rw [track]
    simp only [Task.log] at run
    split at run <;> cases run <;> exact ⟨_, rfl⟩

theorem add_done (manager : ChangeManager) (name : String) (ref : Ref Change)
    (world : World) : (manager.add name ref world).1 =
      .done { manager with changes := manager.changes.insert name ref } := by
  simp only [add]
  cases manager.ledger with
  | none => split <;> rfl
  | some ledger =>
    have first := Ledger.track_done ledger ref world
    simp only [bind_apply]
    generalize Ledger.track ledger ref world = tracked at first ⊢
    obtain ⟨outcome, middle⟩ := tracked
    cases first
    simp only []
    split <;> rfl

theorem add_change {manager kept : ChangeManager} {name : String} {ref : Ref Change}
    {world after : World} (run : manager.add name ref world = (.done kept, after))
    (other : Ref Change) : after.change other = world.change other := by
  obtain ⟨journal, rfl⟩ := add_world run
  split
  · simp only [World.change, Ledger.track, bind_apply, read_apply]
    split <;> rfl
  · rfl

theorem add_keeps {manager kept : ChangeManager} {name : String} {ref other : Ref Change}
    {own : Ref Ledger} {world after : World}
    (run : manager.add name ref world = (.done kept, after))
    (member : other ∈ (world.ledger own).changes) : other ∈ (after.ledger own).changes := by
  obtain ⟨journal, rfl⟩ := add_world run
  split
  · rename_i ledger backed
    change other ∈ ((Ledger.track ledger ref world).2.ledger own).changes
    by_cases same : own = ledger
    · subst same
      exact Ledger.track_mem own ref world (.inr member)
    · rwa [Ledger.track_ledgers ledger ref world same]
  · exact member

theorem add_tracks {manager after : ChangeManager} {own : Ref Ledger}
    (backed : manager.ledger = some own) {name : String} {ref : Ref Change} {world later : World}
    (run : manager.add name ref world = (.done after, later)) :
    ref ∈ (later.ledger own).changes := by
  obtain ⟨journal, rfl⟩ := add_world run
  rw [backed]
  exact Ledger.track_mem own ref world (.inl rfl)

end ChangeManager

/-- A movement that comes to its end is folded in, and a result registers what it returned in the
ledger that backs it. -/
theorem StrikeResult.executeMovement_done {result after : StrikeResult} {name : String}
    {movement : Task (MovementReport (Ref Change))} {world later : World}
    (run : result.executeMovement name movement world = (.done after, later)) :
    ∃ report middle, movement world = (.done report, middle) ∧
      after = result.withReport (result.report.record name { report with functionName := name }) ∧
      ∀ own, World.Tracks own middle later ∧
        (result.ledger = some own → ∀ ref ∈ report.changes.values,
          ref ∈ (later.ledger own).changes) := by
  obtain ⟨report, middle, moved, run⟩ := bind_eq_done run
  cases backed : result.ledger with
  | none =>
    simp only [backed] at run
    cases run
    exact ⟨report, middle, moved, rfl, fun own => ⟨.of_ledgers rfl, by simp⟩⟩
  | some own =>
    simp only [backed] at run
    obtain ⟨_, tracked, track, run⟩ := bind_eq_done run
    cases run
    refine ⟨report, middle, moved, rfl, fun other => ⟨?_, ?_⟩⟩
    · have kept : World.Tracks other middle tracked :=
        ((Footprint.tracking_hosts other).trackEach own _).of_run track
      exact ⟨kept.size, kept.kept⟩
    · rintro ⟨⟩ ref member
      have registered := @Ledger.trackEach_mem middle own ref _ (.inl member)
      rw [track] at registered
      exact registered

end Raid
