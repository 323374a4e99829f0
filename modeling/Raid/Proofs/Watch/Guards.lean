import Raid.Proofs.Script.Watching

/-!
Guards of watches. All the guards that are given out for a slot share it: a watch overwrites what
it finds there, and a guard that is dropped clears it, whoever filled it. So the slot serves the newest
watch whose guard is alive just when nothing was dropped after it, and it serves none when no guard is
left.
-/

namespace Raid

open Act

inductive GuardStep where
  | taken (watch : Watch)
  /-- The guard is dropped that stands here among the living ones, the newest first. -/
  | dropped (position : Nat)

namespace GuardStep

/-- The watches whose guards are alive, the newest first. The latest step comes first. -/
def living : List GuardStep → List Watch
  | [] => []
  | .taken watch :: earlier => watch :: living earlier
  | .dropped position :: earlier => (living earlier).eraseIdx position

def held : List GuardStep → Option Watch
  | .taken watch :: _ => some watch
  | _ => none

theorem held_eq_none {steps : List GuardStep}
    (dropped : ∀ watch earlier, steps ≠ .taken watch :: earlier) : held steps = none := by
  match steps with
  | [] => rfl
  | .taken watch :: earlier => exact absurd rfl (dropped watch earlier)
  | .dropped position :: earlier => rfl

end GuardStep

open GuardStep

/-- The worlds that steps with the guards of a slot lead to, where the slot is vacant at first and
whatever happens between the steps leaves it alone. -/
inductive Guarded (slot : Ref WatchSlot) : List GuardStep → World → Prop
  | vacant {world : World} (vacant : (world.slots.get slot).watch = none) : Guarded slot [] world
  | taken {steps : List GuardStep} {before after : World} (watch : Watch)
    (earlier : Guarded slot steps before)
    (run : Watch.begin slot watch.tactic watch.ledger before = (.done (), after)) :
    Guarded slot (.taken watch :: steps) after
  | dropped {steps : List GuardStep} {before after : World} (position : Nat)
    (alive : position < (living steps).length) (earlier : Guarded slot steps before)
    (run : Watch.finish slot before = (.done (), after)) :
    Guarded slot (.dropped position :: steps) after
  | elsewhere {steps : List GuardStep} {before after : World} (earlier : Guarded slot steps before)
    (same : after.slots.get slot = before.slots.get slot) : Guarded slot steps after

namespace Watch

variable {slot : Ref WatchSlot} {ledger : Ref Ledger} {world : World} {watch : Watch}

def LeavesAll (slot : Ref WatchSlot) (world : World) : Prop :=
  ∀ trigger, ∃ entry, cleanUp slot trigger world = Task.emit (.logged entry) world

def Reverts (slot : Ref WatchSlot) (ledger : Ref Ledger) (world : World) : Prop :=
  ∀ trigger, ∃ (opening : LogEntry) (closing : List ChangeError → Task Unit),
    cleanUp slot trigger world = (do
      Task.emit (.logged opening)
      let failures ← Ledger.revertAll ledger
      closing failures) world ∧
    ∀ failures, ∃ entry, closing failures = Task.emit (.logged entry)

/-- The slot does for this watch what it is filled for: the tactic is the one that is watched, and
cleaning up reverts its ledger. Without a watch there is no tactic, and nothing is called. -/
structure Serves (slot : Ref WatchSlot) (found : Option Watch) (world : World) : Prop where
  watching : watching slot world = (.done (found.map tactic), world)
  idle : found = none → LeavesAll slot world
  reverts : ∀ watch, found = some watch → Reverts slot watch.ledger world

theorem leavesAll_of_vacant (vacant : (world.slots.get slot).watch = none) :
    LeavesAll slot world := by
  intro trigger
  unfold cleanUp
  rw [bind_apply, read_apply]
  dsimp only
  rw [vacant]
  exact Exists.intro _ rfl

theorem reverts_of_held (held : (world.slots.get slot).watch = some watch) :
    Reverts slot watch.ledger world := by
  intro trigger
  unfold cleanUp
  rw [bind_apply, read_apply]
  dsimp only
  rw [held]
  refine Exists.intro _ (Exists.intro _ ⟨rfl, fun failures => ?_⟩)
  split
  · exact Exists.intro _ rfl
  · exact Exists.intro _ rfl

theorem serves_held {found : Option Watch} (held : (world.slots.get slot).watch = found) :
    Serves slot found world where
  watching := by rw [← held]; rfl
  idle vacant := leavesAll_of_vacant (held.trans vacant)
  reverts _ filled := reverts_of_held (held.trans filled)

end Watch

namespace Guarded

variable {slot : Ref WatchSlot} {steps : List GuardStep} {world : World}

/-- Only the latest step decides what is in the slot. -/
theorem held (guarded : Guarded slot steps world) :
    (world.slots.get slot).watch = GuardStep.held steps := by
  induction guarded with
  | vacant vacant => exact vacant
  | @taken steps before after watch earlier run ih =>
    cases run
    exact congrArg WatchSlot.watch (Table.get_set_self before.slots slot _)
  | @dropped steps before after position alive earlier run ih =>
    cases run
    exact congrArg WatchSlot.watch (Table.get_set_self before.slots slot _)
  | elsewhere earlier same ih => rw [same, ih]

theorem serves (guarded : Guarded slot steps world) :
    Watch.Serves slot (GuardStep.held steps) world :=
  Watch.serves_held guarded.held

/-- The slot serves the newest watch whose guard is alive just when the latest step is that watch, or
when no guard is alive. Otherwise a guard was dropped while another one lived on, and the slot serves
nobody: the ledger of the guard that is alive is not reverted. -/
theorem serves_newest_iff (guarded : Guarded slot steps world) :
    (Watch.Serves slot (living steps).head? world ↔
      (∃ watch earlier, steps = .taken watch :: earlier) ∨ living steps = []) ∧
    ((∀ watch earlier, steps ≠ .taken watch :: earlier) → Watch.Serves slot none world) ∧
    (∀ watch earlier, steps = .taken watch :: earlier → world.RevertsReturn → ∀ trigger,
      ∃ after, Watch.cleanUp slot trigger world = (.done (), after) ∧
        ∀ ref ∈ (world.ledger watch.ledger).changes, (after.change ref).Settled) := by
  refine ⟨⟨?_, ?_⟩, ?_, ?_⟩
  · intro serves
    have watched := serves.watching.symm.trans guarded.serves.watching
    match steps with
    | [] => exact .inr rfl
    | .taken watch :: earlier => exact .inl ⟨watch, earlier, rfl⟩
    | .dropped position :: earlier =>
      refine .inr (List.head?_eq_none_iff.mp ?_)
      simpa [GuardStep.held] using watched
  · rintro (⟨watch, earlier, rfl⟩ | nobody)
    · exact guarded.serves
    · have vacant : GuardStep.held steps = none := by
        refine held_eq_none fun watch earlier same => ?_
        rw [same] at nobody
        cases nobody
      rw [nobody, List.head?_nil, ← vacant]
      exact guarded.serves
  · intro dropped
    rw [← held_eq_none dropped]
    exact guarded.serves
  · rintro watch earlier rfl returns trigger
    exact Watch.cleanUp_done guarded.held returns trigger

/-- The guard of one tactic is dropped while another, begun later, is still running. -/
def overlapping : List GuardStep :=
  [.dropped 1, .taken ⟨"second", ⟨1⟩⟩, .taken ⟨"first", ⟨0⟩⟩]

def overlappingStart : World :=
  { changes := ⟨1, [(0, Change.afterApply {
      name := "c", description := "d", applier := some (.scripted [])
      reverter := some (.scripted []) } .null)]⟩,
    ledgers := ⟨2, [(0, {}), (1, ⟨[⟨0⟩]⟩)]⟩ }

def overlappingEnd : World :=
  { overlappingStart with slots := ⟨0, [(0, ⟨none⟩)]⟩ }

theorem guarded_overlapping : Guarded ⟨0⟩ overlapping overlappingEnd :=
  .dropped 1 (by decide)
    (.taken ⟨"second", ⟨1⟩⟩ (.taken ⟨"first", ⟨0⟩⟩ (@Guarded.vacant ⟨0⟩ overlappingStart rfl) rfl) rfl)
    rfl

/-- The guard of the second tactic is alive, but nothing is watched, and the change in its ledger
stays live when the run is interrupted. -/
theorem serves_newest_iff_overlapping :
    (living overlapping).head? = some ⟨"second", ⟨1⟩⟩ ∧
      ¬Watch.Serves ⟨0⟩ (living overlapping).head? overlappingEnd ∧
      ((Watch.cleanUp ⟨0⟩ "SIGTERM" overlappingEnd).2.change ⟨0⟩).live = true := by
  refine ⟨rfl, fun serves => ?_, by decide +kernel⟩
  rcases (serves_newest_iff guarded_overlapping).1.mp serves with ⟨watch, earlier, same⟩ | nobody
  · cases same
  · cases nobody

theorem not_serves_newest_overlapping :
    ¬∀ (slot : Ref WatchSlot) (steps : List GuardStep) (world : World),
      Guarded slot steps world → Watch.Serves slot (living steps).head? world := by
  intro claimed
  have watched := (claimed ⟨0⟩ overlapping overlappingEnd guarded_overlapping).watching
  cases watched

end Guarded

end Raid
