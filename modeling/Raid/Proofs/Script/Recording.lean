import Raid.Proofs.Script.Run

/-!
The names of the strikes that have run are recorded and never taken back: whatever a body does, the
names that were on a list before stay in front, and a body without an action that records adds
none.
-/

namespace Raid

open Act

namespace World

def executedNames (world : World) (ref : Ref ExecutedStrikes) : List String :=
  (world.executed.get ref).names

theorem executed_of_surroundings {before after : World}
    (same : after.surroundings = before.surroundings) : after.executed = before.executed := by
  change after.surroundings.executed = before.surroundings.executed
  rw [same]

/-- Names may be added to a list, if they are permitted at all, but none is lost. A reference that
stands for a list goes on to do so. -/
structure Recorded (permitted : Prop) (ref : Ref ExecutedStrikes) (before after : World) : Prop where
  size : before.executed.size ≤ after.executed.size
  names : ref.index < before.executed.size → ∃ added,
    after.executedNames ref = before.executedNames ref ++ added ∧ (¬permitted → added = [])

variable {permitted : Prop} {ref : Ref ExecutedStrikes} {before after : World}

theorem Recorded.of_executed (same : after.executed = before.executed) :
    Recorded permitted ref before after :=
  ⟨same ▸ Nat.le_refl _, fun _ => ⟨[], by simp [executedNames, same]⟩⟩

end World

def Footprint.recording (permitted : Prop) (ref : Ref ExecutedStrikes) : Footprint World where
  allows := World.Recorded permitted ref
  refl _ := .of_executed rfl
  trans begun ended := by
    refine ⟨Nat.le_trans begun.size ended.size, fun inside => ?_⟩
    obtain ⟨first, names, none⟩ := begun.names inside
    obtain ⟨second, names', none'⟩ := ended.names (Nat.lt_of_lt_of_le inside begun.size)
    refine ⟨first ++ second, by rw [names', names, List.append_assoc], fun forbidden => ?_⟩
    rw [none forbidden, none' forbidden, List.append_nil]

theorem Task.within_recordExecuted {permitted : Prop} {ref : Ref ExecutedStrikes}
    (allowed : permitted) (list : Ref ExecutedStrikes) (name : String) :
    Within (.recording permitted ref) (Task.recordExecuted list name) := by
  refine within_change fun world => ⟨Nat.le_refl _, fun inside => ?_⟩
  by_cases own : ref = list
  · subst own
    exact ⟨[name], by simp [World.executedNames], fun forbidden => absurd allowed forbidden⟩
  · refine ⟨[], ?_, fun _ => rfl⟩
    simp [World.executedNames, Table.get_set_of_ne _ _ own]

theorem Task.within_newExecuted {permitted : Prop} {ref : Ref ExecutedStrikes}
    (names : List String) : Within (.recording permitted ref) (Task.newExecuted names) := by
  refine fun world => ⟨Nat.le_succ _, fun inside => ⟨[], ?_, fun _ => rfl⟩⟩
  have same : (Task.newExecuted names world).2.executed.get ref = world.executed.get ref :=
    Table.get_add_of_ne _ _ (Nat.ne_of_lt inside)
  simp [World.executedNames, same]

theorem Footprint.recording_hosts (permitted : Prop) (ref : Ref ExecutedStrikes) :
    (Footprint.recording permitted ref).Hosts { records := permitted } where
  emit _ _ := fun _ => .of_executed rfl
  newChange _ _ := fun _ => .of_executed rfl
  apply other targetName input := fun world =>
    .of_executed (World.executed_of_surroundings (Change.apply_surroundings _ _ _ world))
  revert other := fun world =>
    .of_executed (World.executed_of_surroundings (Change.within_revert other world).surroundings)
  newLedger := fun _ => .of_executed rfl
  track ledger change := fun world => .of_executed (by
    simp only [Ledger.track, bind_apply, read_apply]
    split <;> rfl)
  newExecuted := Task.within_newExecuted
  recordExecuted := Task.within_recordExecuted
  newSlot := fun _ => .of_executed rfl
  setSlot _ _ _ := fun _ => .of_executed rfl
  onBench _ := fun _ => .of_executed rfl
  files _ _ _ := .of_executed rfl
  freshIdentifier := fun _ => .of_executed rfl

/-- The body of a strike adds names to a list at most, and none when it records none. -/
theorem Strike.run_recorded (strike : Strike) (context : StrikeContext)
    (ref : Ref ExecutedStrikes) (world : World) :
    World.Recorded strike.body.Records ref world (strike.run context world).2 :=
  Strike.within_run (Footprint.recording_hosts _ ref) strike context
    ⟨fun _ _ => trivial, id, fun _ => trivial⟩ world

end Raid
