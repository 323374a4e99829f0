import Raid.Json.Basic

/-!
What movements and strikes report. A report names its changes; `χ` is how a change is given there:
by a reference while a run goes on, by its state in an answer, by its record in a file.
-/

namespace Raid

structure MovementReport (χ : Type) where
  passed : Bool := false
  description : String := ""
  message : String := ""
  /-- The name under which the movement was run. -/
  functionName : String := ""
  value : Json := .null
  changes : Dict χ := {}
  deriving Repr

structure StrikeReport (χ : Type) where
  passed : Bool := false
  description : String := ""
  message : String := ""
  docsUrl : String := ""
  controlId : String := ""
  movements : Dict (MovementReport χ) := {}
  badStateAlert : Bool := false
  deriving Repr

namespace MovementReport

variable {χ ψ : Type}

def map (f : χ → ψ) (report : MovementReport χ) : MovementReport ψ :=
  { passed := report.passed, description := report.description, message := report.message,
    functionName := report.functionName, value := report.value,
    changes := report.changes.map f }

def pass (report : MovementReport χ) (message : String) : MovementReport χ :=
  { report with passed := true, message := message }

def fail (report : MovementReport χ) (message : String) : MovementReport χ :=
  { report with passed := false, message := message }

/-- Attaches changes; one of the same name gives way. -/
def withChanges (report : MovementReport χ) (changes : Dict χ) : MovementReport χ :=
  { report with
    changes := changes.entries.foldl (fun dict entry => dict.insert entry.1 entry.2) report.changes }

end MovementReport

namespace StrikeReport

variable {χ ψ : Type}

def map (f : χ → ψ) (report : StrikeReport χ) : StrikeReport ψ :=
  { passed := report.passed, description := report.description, message := report.message,
    docsUrl := report.docsUrl, controlId := report.controlId,
    movements := report.movements.map (MovementReport.map f),
    badStateAlert := report.badStateAlert }

def changes (report : StrikeReport χ) : List χ :=
  report.movements.values.flatMap fun movement => movement.changes.values

/-- Folds a movement into the strike. Once a movement has failed the strike stays failed and
shows the message of the latest failure. -/
def record (report : StrikeReport χ) (name : String) (movement : MovementReport χ) :
    StrikeReport χ :=
  let replaces := report.movements.isEmpty || report.passed
  { report with
    passed := if replaces then movement.passed else report.passed
    message := if replaces || !movement.passed then movement.message else report.message
    movements := report.movements.insert name movement }

end StrikeReport

end Raid
