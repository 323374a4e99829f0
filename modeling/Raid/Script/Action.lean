import Raid.Files.Tree
import Raid.World.Objects

/-!
The language that strike bodies are written in. A script is a list of steps over named objects; it
is data, so that two bodies can be compared, cut short or stripped of some of their steps.
-/

namespace Raid

/-- What a script asks of its objects, one action at a time. Objects are addressed by the names
that the script gave them. Inside a strike `ctx` is the strike's own context and ledger. -/
inductive Action where
  | change (id name description : String) (applier : Option ApplyFunction)
      (reverter : Option RevertFunction)
  | apply (id target : String) (input : Json)
  | revert (id : String)
  | state (id : String)
  | clone (id other : String)
  | sameAs (id other : String)
  | changeDebug (id : String)
  | changeJson (id : String)
  | changeYaml (id : String)
  | changeLoad (id : String) (record : Json)
  | manager (id : String) (allowed : Bool) (ledger : Option String)
  | managerOfContext (id context : String)
  | allow (id : String)
  | forbid (id : String)
  | add (id name change : String)
  | get (id name : String)
  | managerApply (id name target : String) (input : Json)
  | managerRevert (id name : String)
  | managerRevertAll (id : String)
  | managerState (id : String)
  | intoChanges (id : String)
  | ledger (id : String)
  | track (ledger change : String)
  | ledgerState (ledger : String)
  | ledgerRevertAll (ledger : String)
  | context (id service : String) (invasive : Bool) (vars : Dict String)
  | var (context name : String)
  | strikeResult (id description : String) (context : Option String)
      (controlId docsUrl : String) (preset : Option (Bool × String × Bool))
  | resultState (id : String)
  | resultChanges (id : String)
  | resultRevertChanges (id : String)
  | followThrough (id : String)
  | panic (payload : Payload)
  | executed (id : String) (names : List String)
  | executedRecord (id name : String)
  | executedNames (id : String)
  | executedContains (id name : String)
  | listener (id : String) (exits fails : Bool)
  | fire (id : String)
  | dropListener (id : String)
  | watch (id tactic ledger guard : String)
  | unwatch (guard : String)
  | watching (id : String)
  | raise (signal : String)
  | writeFile (path content : String)
  | remove (path : String)
  | tree
  deriving Repr

inductive Verdict where
  | none
  | pass (message : String)
  | fail (message : String)
  /-- Passes if a var of the context has this value, and otherwise fails with what it has. -/
  | varEquals (name value message : String)
  deriving Repr

structure MovementPlan where
  description : String := ""
  verdict : Verdict := .none
  value : Json := .null
  /-- The manager whose changes are attached. -/
  fromManager : Option String := none
  /-- Further changes to attach, by the names they get in the report. -/
  changes : Dict String := {}
  deriving Repr

structure MovementStep where
  id : Option String
  name : String
  invasive : Bool := false
  context : Option String := none
  body : List Action := []
  plan : MovementPlan := {}
  deriving Repr

inductive Step where
  | act (action : Action)
  | movement (step : MovementStep)
  deriving Repr

/-- The body of a strike as a script. The result that it hands back is the context's, or a
standalone one, with these decorations. -/
structure StrikeScript where
  description : String := ""
  controlId : String := ""
  docsUrl : String := ""
  /-- Overwrites the verdict, the message and the alert of the fresh result. -/
  preset : Option (Bool × String × Bool) := none
  standalone : Bool := false
  steps : List Step := []
  deriving Repr

namespace Action

def label : Action → String
  | change .. => "change"
  | apply .. => "apply"
  | revert .. => "revert"
  | state .. => "state"
  | clone .. => "clone"
  | sameAs .. => "same_as"
  | changeDebug .. => "change_debug"
  | changeJson .. => "change_json"
  | changeYaml .. => "change_yaml"
  | changeLoad .. => "change_load"
  | manager .. => "manager"
  | managerOfContext .. => "manager"
  | allow .. => "allow"
  | forbid .. => "forbid"
  | add .. => "add"
  | get .. => "get"
  | managerApply .. => "manager_apply"
  | managerRevert .. => "manager_revert"
  | managerRevertAll .. => "manager_revert_all"
  | managerState .. => "manager_state"
  | intoChanges .. => "into_changes"
  | ledger .. => "ledger"
  | track .. => "track"
  | ledgerState .. => "ledger_state"
  | ledgerRevertAll .. => "ledger_revert_all"
  | context .. => "context"
  | var .. => "var"
  | strikeResult .. => "strike_result"
  | resultState .. => "result_state"
  | resultChanges .. => "result_changes"
  | resultRevertChanges .. => "result_revert_changes"
  | followThrough .. => "follow_through"
  | panic .. => "panic"
  | executed .. => "executed"
  | executedRecord .. => "executed_record"
  | executedNames .. => "executed_names"
  | executedContains .. => "executed_contains"
  | listener .. => "listener"
  | fire .. => "fire"
  | dropListener .. => "drop_listener"
  | watch .. => "watch"
  | unwatch .. => "unwatch"
  | watching .. => "watching"
  | raise .. => "raise"
  | writeFile .. => "write_file"
  | remove .. => "remove"
  | tree => "tree"

end Action

end Raid
