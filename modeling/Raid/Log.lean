import Raid.Json.Basic
import Raid.Text.Blank
import Raid.Text.Digits

/-!
Log entries, and the filter that decides which of them are shown.
-/

namespace Raid

inductive LogLevel where
  | trace
  | debug
  | info
  | warn
  | error
  deriving Repr, DecidableEq

namespace LogLevel

def name : LogLevel → String
  | trace => "TRACE"
  | debug => "DEBUG"
  | info => "INFO"
  | warn => "WARN"
  | error => "ERROR"

/-- Rises with urgency. -/
def urgency : LogLevel → Nat
  | trace => 1
  | debug => 2
  | info => 3
  | warn => 4
  | error => 5

end LogLevel

inductive LogArea where
  | ledger
  | manager
  | strike
  | tactic
  | listener
  | vessel
  | results
  deriving Repr, DecidableEq

/-- The dotted name by which filters address the area. -/
def LogArea.target : LogArea → String
  | ledger => "raidengine::change::ledger"
  | manager => "raidengine::change::manager"
  | strike => "raidengine::strike::result"
  | tactic => "raidengine::tactic"
  | listener => "raidengine::tactic::listener"
  | vessel => "raidengine::vessel"
  | results => "raidengine::persist"

structure LogEntry where
  level : LogLevel
  area : LogArea
  fields : List (String × Json)
  deriving Repr

/-- A rule of a filter: entries whose target starts with a text are shown from some urgency on.
The urgency of a rule that shows nothing lies above every level's. -/
structure LogRule where
  target : String
  urgency : Nat
  deriving Repr, DecidableEq

namespace LogRule

/-- Above every level: nothing is shown. -/
def silence : Nat := 6

def urgencyNamed? (name : String) : Option Nat :=
  match String.ofList (name.toList.map Char.toLower) with
  | "off" => some silence
  | "error" => some 5
  | "warn" => some 4
  | "info" => some 3
  | "debug" => some 2
  | "trace" => some 1
  | _ => none

/-- The urgency that a level's number stands for: each step from zero to five shows more. -/
def urgencyNumbered? (number : String) : Option Nat :=
  let digits := match number.toList with
    | '+' :: rest => rest
    | all => all
  (Text.digitsIn? 10 digits).bind fun level => if level ≤ 5 then some (silence - level) else none

def urgencyOf? (text : String) : Option Nat := (urgencyNumbered? text).or (urgencyNamed? text)

example : urgencyOf? "WARN" = some 4 := by cbv
example : urgencyOf? "5" = some 1 := by cbv
example : urgencyOf? "" = none := by cbv

def startsRule (text : String) : Bool :=
  match Text.dropBlanks text.toList with
  | [] => false
  | c :: _ => c = '[' || c = '-' || c = ':' || c = '_' || c.isAlphanum || 128 ≤ c.toNat

/-- A rule is a level for all targets, a target with all its entries, or `target=level`, where no
level shows all entries too. -/
def parse (text : String) : Option LogRule :=
  if startsRule text then
    match text.splitOn "=" with
    | [single] =>
      match urgencyOf? single with
      | some urgency => some ⟨"", urgency⟩
      | none => some ⟨single, 1⟩
    | [target, ""] => some ⟨target, 1⟩
    | [target, level] => (urgencyOf? level).map fun urgency => ⟨target, urgency⟩
    | _ => none
  else none

end LogRule

abbrev LogFilter := List LogRule

namespace LogFilter

/-- Rules separated by commas; a filter without rules shows errors only. -/
def parse (text : String) : Option LogFilter :=
  let parts := (text.splitOn ",").filter (· ≠ "")
  if parts.isEmpty then some [⟨"", 5⟩] else parts.mapM LogRule.parse

def engine (level : LogLevel) : LogFilter := [⟨"raidengine", level.urgency⟩]

/-- The rule with the longest target that fits decides; without one the entry is not shown. -/
def shows (filter : LogFilter) (entry : LogEntry) : Bool :=
  let fitting := filter.filter fun rule => rule.target.toList.isPrefixOf entry.area.target.toList
  let deciding := fitting.foldl (fun (best : Option LogRule) rule =>
    match best with
    | none => some rule
    | some old => if old.target.length ≤ rule.target.length then some rule else some old) none
  match deciding with
  | none => false
  | some rule => rule.urgency ≤ entry.level.urgency

end LogFilter

end Raid
