import Raid.Document.Node
import Raid.Json.Basic
import Raid.Settings.Basic
import Raid.Toml.Printer
import Raid.Toml.Reader

/-!
The text of a file of settings: reading it and writing it.
-/

namespace Raid

open DocumentNode Document

section

variable {ν : Type} [DocumentNode ν]

def SharedSettings.ofNode? (node : ν) : Option SharedSettings := do
  let fields ← fields ["write_directory", "output", "invasive"] node
  let standard : SharedSettings := {}
  let writeDirectory ← fields.defaulted "write_directory" standard.writeDirectory text?
  let output ← fields.defaulted "output" standard.output text?
  let invasive ← fields.defaulted "invasive" standard.invasive flag?
  some { writeDirectory, output, invasive }

def ServiceEntry.ofNode? (node : ν) : Option ServiceEntry := do
  let fields ← fields ["tactics", "invasive", "write_directory", "output", "vars"] node
  let tactics ← fields.defaulted "tactics" [] (list text?)
  let invasive ← fields.nullable "invasive" flag?
  let writeDirectory ← fields.nullable "write_directory" text?
  let output ← fields.nullable "output" text?
  let vars ← fields.defaulted "vars" {} (dict text?)
  some { tactics, invasive, writeDirectory, output, vars }

def SettingsFile.ofNode? (node : ν) : Option SettingsFile := do
  let fields ← fields ["defaults", "services"] node
  let defaults ← fields.defaulted "defaults" {} SharedSettings.ofNode?
  let services ← fields.defaulted "services" {} (dict ServiceEntry.ofNode?)
  some { defaults, services }

end

namespace SettingsFile

def parse (text : String) : Except SettingsError SettingsFile :=
  match (Toml.parse text).bind ofNode? with
  | some settings => .ok settings
  | none => .error (.parse "not a file of settings")

open Toml (valueLine headerLine textValue flagValue listValue)

def defaultsText (defaults : SharedSettings) : String :=
  headerLine ["defaults"] ++ valueLine "write_directory" (textValue defaults.writeDirectory) ++
    valueLine "output" (textValue defaults.output) ++
    valueLine "invasive" (flagValue defaults.invasive)

def optionalLine {α : Type} (key : String) (write : α → String) (value : Option α) : String :=
  match value with
  | some value => valueLine key (write value)
  | none => ""

def serviceText (name : String) (entry : ServiceEntry) : String :=
  "\n" ++ headerLine ["services", name] ++ valueLine "tactics" (listValue entry.tactics) ++
    optionalLine "invasive" flagValue entry.invasive ++
    optionalLine "write_directory" textValue entry.writeDirectory ++
    optionalLine "output" textValue entry.output ++
    "\n" ++ headerLine ["services", name, "vars"] ++
    String.join (entry.vars.entries.map fun var => valueLine var.1 (textValue var.2))

def text (settings : SettingsFile) : String :=
  defaultsText settings.defaults ++
    if settings.services.isEmpty then "\n" ++ headerLine ["services"]
    else String.join (settings.services.entries.map fun entry => serviceText entry.1 entry.2)

end SettingsFile

/-! The same as values. -/

namespace SharedSettings

def toJson (defaults : SharedSettings) : Json :=
  .object [("write_directory", .text defaults.writeDirectory), ("output", .text defaults.output),
    ("invasive", .flag defaults.invasive)]

end SharedSettings

namespace ServiceEntry

/-- What is not said is left out. -/
def toJson (entry : ServiceEntry) : Json :=
  let optional {α : Type} (key : String) (write : α → Json) (value : Option α) :
      List (String × Json) := (value.map fun value => (key, write value)).toList
  .object ([("tactics", .list (entry.tactics.map .text))] ++
    optional "invasive" .flag entry.invasive ++
    optional "write_directory" .text entry.writeDirectory ++
    optional "output" .text entry.output ++
    [("vars", .object (entry.vars.map .text).entries)])

end ServiceEntry

namespace SettingsFile

def toJson (settings : SettingsFile) : Json :=
  .object [("defaults", settings.defaults.toJson),
    ("services", .object (settings.services.map ServiceEntry.toJson).entries)]

end SettingsFile

end Raid
