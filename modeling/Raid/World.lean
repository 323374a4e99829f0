import Raid.Files.Tree
import Raid.Moment
import Raid.World.Event

/-!
The state that a run reads and changes, and the work over it.
-/

namespace Raid

structure Bench where
  changes : Dict (Ref Change) := {}
  managers : Dict ChangeManager := {}
  ledgers : Dict (Ref Ledger) := {}
  contexts : Dict StrikeContext := {}
  results : Dict StrikeResult := {}
  executed : Dict (Ref ExecutedStrikes) := {}
  listeners : Dict Listener := {}
  guards : Dict (Ref WatchSlot) := {}
  deriving Repr

structure World where
  changes : Table Change := {}
  ledgers : Table Ledger := {}
  executed : Table ExecutedStrikes := {}
  slots : Table WatchSlot := {}
  /-- The slot of the listener for the signals of the process, once it is installed. -/
  processSlot : Option (Ref WatchSlot) := none
  files : FileTree := {}
  /-- The reading of the clock. -/
  now : Moment := default
  /-- Where the numbers of fresh identifiers begin, and how many were taken. -/
  identifierSeed : Nat := 0
  identifiersTaken : Nat := 0
  bench : Bench := {}
  /-- What happened, the oldest first. -/
  journal : List Event := []

abbrev Task := Act World

namespace World

def change (world : World) (ref : Ref Change) : Change := world.changes.get ref

def ledger (world : World) (ref : Ref Ledger) : Ledger := world.ledgers.get ref

def ledgerChanges (world : World) (ref : Ref Ledger) : List Change :=
  (world.ledger ref).changes.map world.change

def managerView (world : World) (manager : ChangeManager) : ManagerView :=
  ⟨manager.allowed, manager.badState, manager.changes.map world.change⟩

def resultView (world : World) (result : StrikeResult) : ResultView :=
  ⟨result.report.map world.change, result.invasive⟩

end World

namespace Task

def emit (event : Event) : Task Unit :=
  Act.change fun world => { world with journal := world.journal ++ [event] }

def log (level : LogLevel) (area : LogArea) (message : String)
    (fields : List (String × Json) := []) : Task Unit :=
  emit (.logged ⟨level, area, ("message", .text message) :: fields⟩)

def newChange (change : Change) : Task (Ref Change) := fun world =>
  let (ref, changes) := world.changes.add change
  (.done ref, { world with changes := changes })

def setChange (ref : Ref Change) (change : Change) : Task Unit :=
  Act.change fun world => { world with changes := world.changes.set ref change }

def newLedger : Task (Ref Ledger) := fun world =>
  let (ref, ledgers) := world.ledgers.add {}
  (.done ref, { world with ledgers := ledgers })

def newExecuted (names : List String) : Task (Ref ExecutedStrikes) := fun world =>
  let (ref, executed) := world.executed.add ⟨names⟩
  (.done ref, { world with executed := executed })

def newSlot : Task (Ref WatchSlot) := fun world =>
  let (ref, slots) := world.slots.add {}
  (.done ref, { world with slots := slots })

def setSlot (ref : Ref WatchSlot) (watch : Option Watch) : Task Unit :=
  Act.change fun world => { world with slots := world.slots.set ref ⟨watch⟩ }

def setFiles (files : FileTree) : Task Unit := Act.change fun world => { world with files := files }

def onBench (f : Bench → Bench) : Task Unit :=
  Act.change fun world => { world with bench := f world.bench }

def executedNames (ref : Ref ExecutedStrikes) : Task (List String) := fun world =>
  (.done (world.executed.get ref).names, world)

def recordExecuted (ref : Ref ExecutedStrikes) (name : String) : Task Unit :=
  Act.change fun world =>
    { world with
      executed := world.executed.set ref ⟨(world.executed.get ref).names ++ [name]⟩ }

end Task

end Raid
