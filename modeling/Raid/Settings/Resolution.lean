import Raid.Settings.Document
import Raid.Files.Tree

/-!
What holds for a service: the environment goes before the service's own entry, which goes before
the defaults. And the mistakes that can be seen in a file of settings, and its way from and to the
disk.
-/

namespace Raid

abbrev Environment := Dict String

namespace Environment

def invasiveName : String := "RAID_INVASIVE"

def writeDirectoryName : String := "RAID_WRITE_DIRECTORY"

def outputName : String := "RAID_OUTPUT"

end Environment

/-- Whether a text says yes; every other text says no. -/
def saysYes (text : String) : Bool := ["1", "true", "yes", "on"].contains (Text.keyword text)

namespace SettingsFile

def serviceSettings (settings : SettingsFile) (service : String) (environment : Environment) :
    Except SettingsError ServiceSettings :=
  match settings.services.get? service with
  | none => .error (.unknownService service)
  | some entry =>
    let invasive := match environment.get? Environment.invasiveName with
      | some text => saysYes text
      | none => entry.invasive.getD settings.defaults.invasive
    let writeDirectory :=
      ((environment.get? Environment.writeDirectoryName).or entry.writeDirectory).getD
        settings.defaults.writeDirectory
    let output :=
      ((environment.get? Environment.outputName).or entry.output).getD settings.defaults.output
    (readFormat output).map fun output =>
      { serviceName := service, tactics := entry.tactics, invasive, writeDirectory, output
        vars := entry.vars }

def serviceWarnings (name : String) (entry : ServiceEntry) : List String :=
  (if (resultsPath "." name "tactic" .yaml).toBool then []
    else ["Service '" ++ name ++ "' cannot be used as a results directory name"]) ++
  (if entry.tactics.isEmpty then ["Service '" ++ name ++ "' requests no tactics"] else []) ++
  match entry.output with
  | some output =>
    if (readFormat output).toBool then []
    else
      ["Invalid output '" ++ output ++ "' for service '" ++ name ++
        "': should be json or yaml"]
  | none => []

def warnings (settings : SettingsFile) : List String :=
  (if (readFormat settings.defaults.output).toBool then []
    else
      ["Invalid output '" ++ settings.defaults.output ++
        "' in [defaults]: should be json or yaml"]) ++
  (if settings.services.isEmpty then ["No services defined"] else []) ++
  settings.services.entries.flatMap fun entry => serviceWarnings entry.1 entry.2

def load (files : FileTree) (path : String) : Except SettingsError SettingsFile :=
  match files.read path with
  | .error cause => .error (.read path cause)
  | .ok text => parse text

def loadOrDefault (files : FileTree) (path : String) : Except SettingsError SettingsFile :=
  if files.exists? path then load files path else .ok {}

def save (settings : SettingsFile) (files : FileTree) (path : String) :
    Except SettingsError FileTree :=
  match files.write path settings.text with
  | .error cause => .error (.write path cause)
  | .ok files => .ok files

end SettingsFile

end Raid
