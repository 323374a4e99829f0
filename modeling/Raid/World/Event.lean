import Raid.Files.Tree
import Raid.Log
import Raid.World.Objects

/-!
What can be seen of a run: the answers of its steps and the events on the way, in order.
-/

namespace Raid

structure ManagerView where
  allowed : Bool
  badState : Bool
  changes : Dict Change
  deriving Repr

structure ResultView where
  report : StrikeReport Change
  invasive : Bool
  deriving Repr

abbrev Attempt (α : Type) := Except Payload α

inductive Answer where
  | nothing
  | unknownId (id : String)
  | panicked (payload : Payload)
  | flag (value : Bool)
  | number (value : Nat)
  | text (value : String)
  | optionalText (value : Option String)
  | names (values : List String)
  | value (value : Json)
  | change (state : Change)
  | undecodable
  | applied (result : Attempt (Except ChangeError Json)) (state : Change)
  | reverted (result : Attempt (Except ChangeError Unit)) (state : Change)
  | manager (state : ManagerView)
  | managerChanged (state : ManagerView)
  | managerPanicked (payload : Payload) (state : ManagerView)
  | managerGot (change : Option Change) (state : ManagerView)
  | managerApplied (target : Option Json) (state : ManagerView)
  | managerReverted (result : Except ChangeError Unit) (state : ManagerView)
  | managerSwept (failures : List ChangeError) (state : ManagerView)
  | changes (states : Dict Change)
  | ledger (states : List Change)
  | ledgerSwept (failures : List ChangeError) (states : List Change)
  | context (service : String) (invasive : Bool) (vars : Dict String) (ledger : List Change)
  | result (state : ResultView)
  | resultPanicked (payload : Payload) (state : ResultView)
  | resultSwept (failures : List ChangeError) (state : ResultView)
  | movement (ran : Bool) (state : ResultView)
  /-- The answer of a movement inside a strike, whichever result it worked on. -/
  | movementInStrike (ran passed : Bool) (message : String)
  | tree (entries : List (Location × Entry))
  deriving Repr

inductive Event where
  | applyCalled (change target : String) (input : Json)
  | revertCalled (change : String) (target : Json)
  | strikeStarted (name service : String) (invasive : Bool) (vars : Dict String)
  | stepFinished (action : String) (answer : Answer)
  | logged (entry : LogEntry)
  deriving Repr

end Raid
