import Raid.Vessel.Summary
import Raid.Settings.Resolution

/-!
What the command line prints: summaries of runs, the built-in tactics, settings, and reports of
results.
-/

namespace Raid.CommandLine

def padded (width : Nat) (text : String) : String :=
  text ++ String.ofList (List.replicate (width - text.length) ' ')

def lines (texts : List String) : String := String.join (texts.map (· ++ "\n"))

def tacticLines (tactic : TacticSummary) : List String :=
  ["  " ++ padded 20 tactic.name ++ " " ++ padded 10 tactic.outcome.text ++ " " ++ tactic.message] ++
    match tactic.resultsPath with
    | some path => ["  " ++ padded 20 "" ++ " " ++ path]
    | none => []

def summaryText (runId : String) (summary : RunSummary) : String :=
  lines (["", "Raid on " ++ summary.serviceName ++ " (" ++ runId ++ ")", ""] ++
    summary.tactics.flatMap tacticLines ++
    summary.persistFailures.map ("  error: " ++ ·) ++ [""])

def armoryText (armory : Armory) : String :=
  let line (entry : String × List Strike) : String :=
    padded 12 entry.1 ++ " " ++ ", ".intercalate (entry.2.map Strike.name)
  lines (["", padded 12 "Tactic" ++ " Strikes", padded 12 "------" ++ " -------"] ++
    armory.tactics.entries.map line ++ [""])

def flagText (value : Bool) : String := if value then "true" else "false"

def framed (text : String) : String := "\"" ++ text ++ "\""

def settingsTitle : String := lines ["", "Raid Configuration", "==================", ""]

def noSettingsText (path : String) : String :=
  lines ["No raid.toml found at " ++ path, "", "Run 'raidengine config init' to create one.", ""]

def serviceLines (name : String) (entry : ServiceEntry) : List String :=
  ["[services." ++ name ++ "]", "  tactics = " ++ Text.shownList entry.tactics] ++
    (entry.invasive.map fun value => "  invasive = " ++ flagText value).toList ++
    (entry.output.map fun value => "  output = " ++ framed value).toList ++
    (entry.writeDirectory.map fun value => "  write_directory = " ++ framed value).toList ++
    (entry.vars.entries.map fun var => "  vars." ++ var.1 ++ " = " ++ framed var.2) ++ [""]

def effectiveLine (settings : SettingsFile) (environment : Environment) (name : String) :
    String :=
  "  " ++ name ++ ": " ++
    match settings.serviceSettings name environment with
    | .ok found =>
      "invasive = " ++ flagText found.invasive ++ ", output = " ++ found.output.extension ++
        ", write_directory = " ++ found.writeDirectory
    | .error error => error.message

def settingsText (settings : SettingsFile) (environment : Environment) : String :=
  let defaults := settings.defaults
  let effective :=
    if settings.services.isEmpty then []
    else
      ["Effective values (with env overrides):"] ++
        settings.services.keys.map (effectiveLine settings environment) ++ [""]
  lines (["[defaults]", "  write_directory = " ++ framed defaults.writeDirectory,
      "  output = " ++ framed defaults.output, "  invasive = " ++ flagText defaults.invasive, ""] ++
    settings.services.entries.flatMap (fun entry => serviceLines entry.1 entry.2) ++ effective)

def validationTitle : String := lines ["", "Validating configuration...", ""]

def warningsText (warnings : List String) : String :=
  lines ((if warnings.isEmpty then ["Configuration is valid."]
    else "Configuration warnings:" :: warnings.map ("  - " ++ ·)) ++ [""])

def settingsExistText (path : String) : String :=
  lines ["raid.toml already exists at " ++ path, "Delete it first if you want to recreate it."]

def settingsMadeText (path : String) : String :=
  lines ["Created raid.toml at " ++ path, "", "You can now customize:",
    "  - [defaults] write_directory, output, invasive",
    "  - [services.<name>] tactics and per-service overrides",
    "  - [services.<name>.vars] target_dir for the built-in armory", ""]

def changeState (change : ChangeRecord) : String :=
  if change.badState then "bad state"
  else if change.reverted then "reverted"
  else if change.applied then "applied"
  else "not applied"

def movementLines (name : String) (movement : MovementReport ChangeRecord) : List String :=
  ("       - " ++ name ++ " (" ++ (if movement.passed then "pass" else "fail") ++ "): " ++
      movement.message) ::
    movement.changes.entries.map fun entry =>
      "           change " ++ entry.1 ++ ": " ++ changeState entry.2

def strikeLines (name : String) (strike : StrikeReport ChangeRecord) : List String :=
  let mark := if strike.badStateAlert then "!!" else if strike.passed then "ok" else "xx"
  ["  [" ++ mark ++ "] " ++ name ++ ": " ++ strike.description] ++
    (if strike.controlId.isEmpty then [] else ["       control: " ++ strike.controlId]) ++
    ["       " ++ strike.message] ++
    strike.movements.entries.flatMap fun entry => movementLines entry.1 entry.2

def timeLines (start finish : Option Moment) : List String :=
  match start, finish with
  | some start, some finish =>
    ["Ran:    " ++ start.reportText ++ " (" ++ toString (start.millisecondsTo finish) ++ " ms)"]
  | _, _ => []

def reportText (tactic : TacticReport ChangeRecord) : String :=
  let verdict :=
    if tactic.badStateAlert then "BAD STATE" else if tactic.passed then "PASSED" else "FAILED"
  lines (["", "Tactic: " ++ tactic.name ++ " [" ++ verdict ++ "]",
      "Status: " ++ tactic.status.text] ++
    timeLines tactic.startTime tactic.endTime ++
    ["Strikes: " ++ toString tactic.attempts ++ " attempted, " ++ toString tactic.successes ++
      " passed, " ++ toString tactic.failures ++ " failed", ""] ++
    tactic.strikeResults.entries.flatMap (fun entry => strikeLines entry.1 entry.2) ++ [""])

end Raid.CommandLine
