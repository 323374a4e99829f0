import Raid.Proofs.Files.Outside
import Raid.Proofs.Tactic.Matching

/-!
Work that does not see a part of the state. Two worlds are alike when they differ in the journal and
in a region of the file tree at most. Where strike bodies and reverts come out the same in alike
worlds and leave alike worlds behind, so does the execution of a tactic.
-/

namespace Raid

open Act

/-- Worlds that differ in the journal and in the region of their files at most, and whose other files,
changes and named objects are sound in a sense of their own. -/
inductive World.Alike (region : Region) (sound : FileTree → Table Change → Bench → Prop) :
    World → World → Prop
  | of {world : World} {files : FileTree} {journal : List Event}
    (alike : FileTree.Alike region world.files files)
    (fine : sound (world.files.outside region) world.changes world.bench) :
    Alike region sound world { world with files := files, journal := journal }

namespace World

variable {region : Region} {sound : FileTree → Table Change → Bench → Prop}

namespace Alike

theorem emit (event : Event) : Respects (Alike region sound) (Task.emit event) :=
  fun _ _ ⟨alike, fine⟩ => ⟨rfl, .of alike fine⟩

theorem read {α : Type} {next : World → Task α}
    (blind : ∀ world files journal,
      next { world with files := files, journal := journal } = next world)
    (rest : ∀ world, sound (world.files.outside region) world.changes world.bench →
      Respects (Alike region sound) (next world)) :
    Respects (Alike region sound) (Act.read >>= next) := by
  rintro first _ ⟨alike, fine⟩
  simp only [bind_apply, read_apply, blind first]
  exact rest first fine first _ (.of alike fine)

theorem track (ledger : Ref Ledger) (change : Ref Change) :
    Respects (Alike region sound) (Ledger.track ledger change) :=
  read (fun _ _ _ => rfl) fun _ _ => respects_ite (respects_pure ()) <|
    respects_bind (emit _) fun _ _ _ ⟨alike, fine⟩ => ⟨rfl, .of alike fine⟩

end Alike

/-- Where the reverts come out the same, so does everything that an execution does besides running
bodies. -/
theorem alike_carried (reverts : ∀ ref, Respects (Alike region sound) (Change.revert ref)) :
    Carried (Alike region sound) where
  same := fun ⟨_, _⟩ => ⟨_, _, rfl⟩
  emit event _ := Alike.emit event
  revert := reverts
  newLedger := fun _ _ ⟨alike, fine⟩ => ⟨rfl, .of alike fine⟩
  recordExecuted _ _ := fun _ _ ⟨alike, fine⟩ => ⟨rfl, .of alike fine⟩
  slots := fun _ _ ⟨alike, fine⟩ => .of alike fine

end World

structure Execution.Alike (region : Region) (sound : FileTree → Table Change → Bench → Prop)
    (first second : Execution) : Prop where
  world : World.Alike region sound first.world second.world
  tactic : first.tactic = second.tactic

/-- Worlds that are alike, and a tactic whose bodies see nothing of the difference when they are run
by the execution: it comes to the same outcome and leaves the same tactic in worlds that are alike. -/
theorem Execution.Alike.execute {region : Region}
    {sound : FileTree → Table Change → Bench → Prop} {first second : Execution}
    (alike : Alike region sound first second)
    (reverts : ∀ ref, Respects (World.Alike region sound) (Change.revert ref))
    (bodies : ∀ strike ∈ first.tactic.strikes,
      Respects (World.Alike region sound) (strike.run first.ownContext)) :
    (Execution.execute first).1 = (Execution.execute second).1 ∧
      Alike region sound (Execution.execute first).2 (Execution.execute second).2 := by
  have unchanged (tactic : Tactic) : tactic.mapStrikes id = tactic := by
    simp [Tactic.mapStrikes]
  have beside : Beside (World.Alike region sound) id first second :=
    ⟨alike.world, by rw [unchanged, alike.tactic]⟩
  obtain ⟨same, left⟩ := beside.execute (World.alike_carried reverts) (fun _ => rfl) bodies
  exact ⟨same, left.world, by rw [left.tactic, unchanged]⟩

end Raid
