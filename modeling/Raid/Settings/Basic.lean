import Raid.Dict
import Raid.Results.Format

/-!
Settings of runs: what a file says for all services and for each of them, and what holds for one
service once everything is put together.
-/

namespace Raid

/-- What holds for every service that says nothing else. The output stays a text here, so that an
unknown format is noticed when a service is looked up. -/
structure SharedSettings where
  writeDirectory : String := "raid-results"
  output : String := "yaml"
  invasive : Bool := false
  deriving Repr, DecidableEq

structure ServiceEntry where
  /-- The tactics to run, in order. -/
  tactics : List String := []
  invasive : Option Bool := none
  writeDirectory : Option String := none
  output : Option String := none
  /-- Values that are handed to the strikes. -/
  vars : Dict String := {}
  deriving Repr

structure SettingsFile where
  defaults : SharedSettings := {}
  services : Dict ServiceEntry := {}
  deriving Repr

structure ServiceSettings where
  serviceName : String := ""
  tactics : List String := []
  invasive : Bool := false
  writeDirectory : String := ""
  output : OutputFormat := .yaml
  vars : Dict String := {}
  deriving Repr

inductive SettingsError where
  | unsupportedFormat (value : String)
  | unknownService (name : String)
  | noTactics (service : String)
  | read (path : String) (cause : Cause)
  | write (path : String) (cause : Cause)
  | parse (reason : String)
  /-- The text could not be made. -/
  | serialize (reason : String)
  deriving Repr, DecidableEq

namespace SettingsError

def message : SettingsError → String
  | unsupportedFormat value =>
    "Unsupported output format '" ++ value ++ "'. Valid values: json, yaml"
  | unknownService name => "Service '" ++ name ++ "' is not defined in the configuration"
  | noTactics service => "No tactics requested for service '" ++ service ++ "'"
  | read path cause => "Failed to read config file at " ++ path ++ ": " ++ cause.message
  | write path cause => "Failed to write config file at " ++ path ++ ": " ++ cause.message
  | parse reason => "Failed to parse config: " ++ reason
  | serialize reason => "Failed to serialize config: " ++ reason

end SettingsError

namespace SettingsFile

def defaultPath : String := "raid.toml"

end SettingsFile

def readFormat (text : String) : Except SettingsError OutputFormat :=
  match OutputFormat.parse? text with
  | some format => .ok format
  | none => .error (.unsupportedFormat text)

end Raid
