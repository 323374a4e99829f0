import Raid.Change.Transition

/-!
Registering changes in a ledger, and undoing all that were registered.
-/

namespace Raid.Ledger

/-- Registers a change at the end. A change that is registered is not registered again. -/
def track (ledger : Ref Ledger) (change : Ref Change) : Task Unit := do
  let world ← Act.read
  let changes := (world.ledger ledger).changes
  if change ∈ changes then pure ()
  else
    Task.log .debug .ledger "tracking change" [("change", .text (world.change change).name)]
    Act.change fun world =>
      { world with ledgers := world.ledgers.set ledger ⟨changes ++ [change]⟩ }

def trackEach (ledger : Ref Ledger) : List (Ref Change) → Task Unit
  | [] => pure ()
  | change :: rest => do
    track ledger change
    trackEach ledger rest

/-- Reverts every registered change, going on after failures, which it returns. -/
def revertAll (ledger : Ref Ledger) : Task (List ChangeError) := do
  let world ← Act.read
  Change.revertEach .ledger "change could not be reverted" (world.ledger ledger).changes

end Raid.Ledger
