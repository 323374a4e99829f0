import Raid.Ledger

/-!
Cleaning up when a run is interrupted. A running tactic puts its ledger into the slot of a
listener; a listener that is triggered reverts the ledger it finds there.
-/

namespace Raid.Watch

def begin (slot : Ref WatchSlot) (tactic : String) (ledger : Ref Ledger) : Task Unit :=
  Task.setSlot slot (some ⟨tactic, ledger⟩)

/-- Clears the slot, whoever filled it. -/
def finish (slot : Ref WatchSlot) : Task Unit := Task.setSlot slot none

def watching (slot : Ref WatchSlot) : Task (Option String) := fun world =>
  (.done ((world.slots.get slot).watch.map Watch.tactic), world)

def cleanUp (slot : Ref WatchSlot) (trigger : String) : Task Unit := do
  let world ← Act.read
  match (world.slots.get slot).watch with
  | none =>
    Task.log .warn .listener "termination requested; no tactic running"
      [("signal", .text trigger)]
  | some watch =>
    Task.log .warn .listener "termination requested; reverting changes"
      [("tactic", .text watch.tactic), ("signal", .text trigger),
        ("changes", .nat (world.ledger watch.ledger).changes.length)]
    let failures ← Ledger.revertAll watch.ledger
    if failures.isEmpty then
      Task.log .info .listener "cleanup completed; all changes reverted"
        [("tactic", .text watch.tactic)]
    else
      Task.log .error .listener "cleanup failed; the target system may be in a bad state"
        [("tactic", .text watch.tactic), ("failed", .nat failures.length)]

/-- The slot of the listener for the signals of the process, which is installed once. -/
def processSlot : Task (Ref WatchSlot) := do
  match (← Act.read).processSlot with
  | some slot => pure slot
  | none =>
    let slot ← Task.newSlot
    Act.change fun world => { world with processSlot := some slot }
    pure slot

end Raid.Watch

namespace Raid.Listener

def stop (listener : Listener) : Task Unit :=
  if listener.live then Task.log .debug .listener "interrupt listener stopped" else pure ()

/-- Runs a triggered listener to its end. A panic in a revert function ends the listener and is
not seen outside; the end of the process is. -/
def trigger (listener : Listener) (label : String) : Task Unit := do
  if listener.fails then
    Task.log .warn .listener "could not listen for termination signals"
      [("error", .text "no signals here")]
  else
    match ← Act.caught (Watch.cleanUp listener.slot label) with
    | .error _ => pure ()
    | .ok () => if listener.exits then Act.halt (.exit 0) else pure ()

end Raid.Listener
