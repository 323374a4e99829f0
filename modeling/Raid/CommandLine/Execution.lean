import Raid.CommandLine.Arguments
import Raid.CommandLine.Output
import Raid.Vessel.Mobilize

/-!
Carrying out what the command line asks for. What was printed before a failure stays printed; a
failure is told together with its causes.
-/

namespace Raid.CommandLine

inductive Failure where
  /-- The settings could not be used, perhaps with a word on what to do about it. -/
  | settings (advice : Option String) (error : SettingsError)
  | results (error : ResultsError)
  | run (error : VesselError)
  | files (cause : Cause)
  | noSettings (path : String)
  deriving Repr

namespace Failure

def settingsCauses : SettingsError → List String
  | .read _ cause | .write _ cause => [cause.message]
  | .parse reason | .serialize reason => [reason]
  | _ => []

def resultsCauses : ResultsError → List String
  | .createDirectory _ cause | .write _ cause | .read _ cause => [cause.message]
  | _ => []

def messages : Failure → List String
  | settings advice error => advice.toList ++ error.message :: settingsCauses error
  | results error => error.message :: resultsCauses error
  | run (.settings error) => error.message :: settingsCauses error
  | run error => [error.message]
  | files cause => [cause.message]
  | noSettings path =>
    ["No raid.toml found at " ++ path ++ ". Run 'raidengine config init' to create one."]

/-- A text whose first line has something in front, and the other lines as many blanks. -/
def hanging (front text : String) : String :=
  let indented (line : String) : String :=
    String.ofList (List.replicate front.length ' ') ++ line
  match text.splitOn "\n" with
  | [] => front
  | first :: rest => "\n".intercalate ((front ++ first) :: rest.map indented)

/-- The causes, numbered when there are several. -/
def causeLines (causes : List String) : List String :=
  match causes with
  | [single] => [hanging "    " single]
  | _ =>
    causes.zipIdx.map fun (cause, index) =>
      let number := toString index
      hanging (String.ofList (List.replicate (5 - number.length) ' ') ++ number ++ ": ") cause

def text (failure : Failure) : String :=
  match failure.messages with
  | [] => "Error: \n"
  | [single] => "Error: " ++ single ++ "\n"
  | first :: causes =>
    "Error: " ++ first ++ "\n\nCaused by:\n" ++ lines (causeLines causes)

end Failure

structure Result where
  printed : String := ""
  ending : Except Failure Nat := .ok 0

def Result.failed (printed : String) (failure : Failure) : Result := ⟨printed, .error failure⟩

structure Surroundings where
  environment : Environment := {}
  /-- What the summary calls the run. -/
  runId : String

/-- Puts what is said on the command line in the place of the settings. -/
def Overrides.apply (overrides : Overrides) (settings : ServiceSettings) : ServiceSettings :=
  { settings with
    tactics := if overrides.tactics.isEmpty then settings.tactics else overrides.tactics
    invasive := overrides.invasive || settings.invasive
    output := overrides.output.getD settings.output
    writeDirectory := overrides.writeDirectory.getD settings.writeDirectory }

def mobilize (vessel : Vessel) : Task (Except VesselError RunSummary) := fun world =>
  let (outcome, after) := Voyage.mobilize ⟨world, vessel⟩
  (outcome, after.world)

def run (surroundings : Surroundings) (path service : String) (overrides : Overrides) :
    Task Result := do
  match SettingsFile.load (← Act.read).files path with
  | .error error =>
    let advice := "Could not load " ++ path ++ ". Run 'raidengine config init' to create one."
    pure (.failed "" (.settings (some advice) error))
  | .ok file =>
    match file.serviceSettings service surroundings.environment with
    | .error error => pure (.failed "" (.settings none error))
    | .ok settings =>
      let settings := overrides.apply settings
      let executed ← Task.newExecuted []
      match ← mobilize { settings, armory := .directory, executed } with
      | .error error => pure (.failed "" (.run error))
      | .ok summary =>
        pure { printed := summaryText surroundings.runId summary, ending := .ok summary.exitCode }

def showSettings (surroundings : Surroundings) (path : String) : Task Result := do
  let files := (← Act.read).files
  if !files.exists? path then pure { printed := settingsTitle ++ noSettingsText path }
  else
    let front := settingsTitle ++ lines ["Config file: " ++ path, ""]
    match SettingsFile.load files path with
    | .error error => pure (.failed front (.settings none error))
    | .ok settings => pure { printed := front ++ settingsText settings surroundings.environment }

def validateSettings (path : String) : Task Result := do
  let files := (← Act.read).files
  if !files.exists? path then pure (.failed validationTitle (.noSettings path))
  else
    match SettingsFile.load files path with
    | .error error => pure (.failed validationTitle (.settings none error))
    | .ok settings => pure { printed := validationTitle ++ warningsText settings.warnings }

def firstSettings : SettingsFile :=
  { services := Dict.ofList
      [("local", { tactics := ["baseline"], vars := Dict.ofList [("target_dir", ".")] })] }

def initSettings (path : String) : Task Result := do
  let files := (← Act.read).files
  if files.exists? path then pure { printed := settingsExistText path }
  else
    let above := (Path.parent? path).getD ""
    let (made, files) :=
      if above.isEmpty || files.exists? above then (.ok (), files)
      else files.makeDirectories above
    Task.setFiles files
    match made with
    | .error cause => pure (.failed "" (.files cause))
    | .ok () =>
      match firstSettings.save files path with
      | .error error => pure (.failed "" (.settings none error))
      | .ok files =>
        Task.setFiles files
        pure { printed := settingsMadeText path }

def report (file : String) : Task Result := do
  match readRecord (← Act.read).files file with
  | .error error => pure (.failed "" (.results error))
  | .ok record => pure { printed := reportText record }

def carryOut (surroundings : Surroundings) (invocation : Invocation) : Task Result :=
  let path := invocation.settingsPath
  match invocation.request with
  | .run service overrides => run surroundings path service overrides
  | .list => pure { printed := armoryText .directory }
  | .settings .show => showSettings surroundings path
  | .settings .validate => validateSettings path
  | .settings .init => initSettings path
  | .report file => report file

def logVariable : String := "RAIDENGINE_LOG"

/-- The entries of the log that are shown: by the filter in the environment, and otherwise from a
level on that depends on the arguments. -/
def logFilter (environment : Environment) (verbose : Bool) : LogFilter :=
  ((environment.get? logVariable).bind LogFilter.parse).getD
    (LogFilter.engine (if verbose then .debug else .info))

def shownEntries (filter : LogFilter) (journal : List Event) : List LogEntry :=
  journal.filterMap fun event =>
    match event with
    | .logged entry => if filter.shows entry then some entry else none
    | _ => none

def versionText : String := "raidengine 0.1.0\n"

end Raid.CommandLine
