import Raid.Change.Basic
import Raid.Strike.Report
import Raid.Table

/-!
The objects that a run works on besides its changes. Those that several holders share are kept in
tables and held by reference; the others are values.
-/

namespace Raid

/-- The changes touched so far, each once, in the order of their registration. -/
structure Ledger where
  changes : List (Ref Change) := []
  deriving Repr, Inhabited

structure Watch where
  tactic : String
  ledger : Ref Ledger
  deriving Repr

structure WatchSlot where
  watch : Option Watch := none
  deriving Repr, Inhabited

/-- The names of the strikes that have run, in order and with repetitions. -/
structure ExecutedStrikes where
  names : List String := []
  deriving Repr, Inhabited

/-- The changes of one unit of work by name. Applying needs permission, reverting never does. -/
structure ChangeManager where
  changes : Dict (Ref Change) := {}
  allowed : Bool := false
  badState : Bool := false
  ledger : Option (Ref Ledger) := none
  deriving Repr

structure StrikeContext where
  service : String := ""
  invasive : Bool := false
  vars : Dict String := {}
  ledger : Ref Ledger
  deriving Repr

/-- A report in the making, with the permission to run invasive movements and the ledger that its
changes are registered in. -/
structure StrikeResult where
  report : StrikeReport (Ref Change)
  invasive : Bool := false
  ledger : Option (Ref Ledger) := none
  deriving Repr

structure Listener where
  slot : Ref WatchSlot
  exits : Bool
  fails : Bool
  live : Bool := true
  deriving Repr

namespace StrikeResult

def standalone (description : String) : StrikeResult := { report := { description := description } }

def withReport (result : StrikeResult) (report : StrikeReport (Ref Change)) : StrikeResult :=
  { result with report := report }

end StrikeResult

namespace StrikeContext

def strikeResult (context : StrikeContext) (description : String) : StrikeResult :=
  { report := { description := description }, invasive := context.invasive
    ledger := some context.ledger }

/-- A manager that may apply changes when the context is invasive and registers them. -/
def changeManager (context : StrikeContext) : ChangeManager :=
  { allowed := context.invasive, ledger := some context.ledger }

end StrikeContext

end Raid
