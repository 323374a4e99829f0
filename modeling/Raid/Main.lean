import Raid.CommandLine.Execution
import Raid.Identifier
import Raid.Json.Printer

/-!
The program. It takes the entries of the disk that a request can touch into a tree of files,
carries the request out there, and brings what has changed back to the disk. Permissions can be set
but not asked for, so every entry is taken to have those of a new one.
-/

namespace Raid.Program

def location (working : Location) (path : String) : Location :=
  let step (location : Location) (name : String) : Location :=
    if name = "." then location
    else if name = ".." then location.dropLast
    else location ++ [name]
  (Path.names path).foldl step (if Path.isAbsolute path then [] else working)

def pathText (location : Location) : String := "/" ++ "/".intercalate location

/-- What stands at a location of the disk. A file is empty unless its text is asked for. -/
def entryOf (location : Location) (withText : Bool) : IO (Option Entry) := do
  let root ← IO.currentDir
  let path := root / pathText location
  try
    match (← path.metadata).type with
    | .dir => pure (some (.directory .newDirectory))
    | _ =>
      let text ← if withText then IO.FS.readFile path else pure ""
      pure (some (.file text .newFile))
  catch _ => pure none

def takeEntry (tree : FileTree) (location : Location) (withText : Bool) : IO FileTree := do
  if (tree.entryAt? location).isSome then pure tree
  else
    match ← entryOf location withText with
    | some entry => pure (tree.put location entry)
    | none => pure tree

def takePath (withText : Bool) (tree : FileTree) (path : String) : IO FileTree := do
  let target := location tree.workingDirectory path
  let ways := (List.range target.length).map fun count => target.take count
  let tree ← ways.foldlM (fun tree way => takeEntry tree way false) tree
  let tree ← takeEntry tree target withText
  match tree.entryAt? target with
  | some (.directory _) =>
    let root ← IO.currentDir
    let children ← try (root / pathText target).readDir catch _ => pure #[]
    children.toList.foldlM (fun tree child => takeEntry tree (target ++ [child.fileName]) false)
      tree
  | _ => pure tree

/-- The paths that a run can touch, once its settings are known. -/
def touched (tree : FileTree) (environment : Environment) (invocation : CommandLine.Invocation) :
    List String :=
  match invocation.request with
  | .run service overrides =>
    match SettingsFile.load tree invocation.settingsPath with
    | .error _ => []
    | .ok file =>
      match file.serviceSettings service environment with
      | .error _ => []
      | .ok settings =>
        let settings := overrides.apply settings
        let results := settings.tactics.filterMap fun tactic =>
          (resultsPath settings.writeDirectory service tactic settings.output).toOption
        (settings.vars.get? DirectoryCheck.targetVar).toList ++ results
  | _ => []

def snapshot (environment : Environment) (invocation : CommandLine.Invocation) :
    IO FileTree := do
  let working := Path.names (← IO.currentDir).toString
  let empty : FileTree := { workingDirectory := working }
  let read := invocation.settingsPath ::
    match invocation.request with
    | .report file => [file]
    | _ => []
  let tree ← read.foldlM (takePath true) empty
  (touched tree environment invocation).foldlM (takePath false) tree

/-- The rights that the permission bits give, those of the owner from the eighth bit down. -/
def rights (permissions : Permissions) : IO.FileRight :=
  let right (top : Nat) : IO.AccessRight :=
    { read := permissions.mode.getLsbD top, write := permissions.mode.getLsbD (top - 1)
      execution := permissions.mode.getLsbD (top - 2) }
  { user := right 8, group := right 5, other := right 2 }

def store (before : FileTree) (location : Location) (entry : Entry) : IO Unit := do
  let path := pathText location
  let old := before.entryAt? location
  match entry with
  | .directory _ => if old.isNone then IO.FS.createDir path
  | .file text _ =>
    if old ≠ some entry then IO.FS.writeFile path text
  if old.any fun old => old.permissions ≠ entry.permissions then
    IO.setAccessRights path (rights entry.permissions)

def bringBack (before after : FileTree) : IO Unit := do
  for (location, entry) in after.entries do
    store before location entry
  for (location, _) in before.entries do
    if (after.entryAt? location).isNone then IO.FS.removeFile (pathText location)

def clock : IO Moment := do
  let (_, path) ← IO.FS.createTempFile
  let time := (← path.metadata).modified
  IO.FS.removeFile path
  pure { seconds := time.sec, nanos := time.nsec.toNat }

def environment : IO Environment := do
  let names := [Environment.invasiveName, Environment.writeDirectoryName, Environment.outputName,
    CommandLine.logVariable]
  let pairs ← names.filterMapM fun name => do
    pure ((← IO.getEnv name).map fun value => (name, value))
  pure (Dict.ofList pairs)

def logLine (asJson : Bool) (entry : LogEntry) : String :=
  if asJson then
    Json.compact (.object
      [("level", .text entry.level.name), ("fields", .object entry.fields),
        ("target", .text entry.area.target)])
  else
    let fields := entry.fields.map fun (key, value) => key ++ "=" ++ Json.compact value
    entry.level.name ++ " " ++ entry.area.target ++ ": " ++ " ".intercalate fields

def carryOut (invocation : CommandLine.Invocation) : IO UInt32 := do
  let environment ← environment
  let before ← snapshot environment invocation
  let seed ← IO.rand 0 (Nat.pow 2 122 - 1)
  let world : World := { files := before, now := ← clock, identifierSeed := seed }
  let work : Task CommandLine.Result := do
    CommandLine.carryOut { environment, runId := ← freshIdentifier } invocation
  let (outcome, after) := work world
  bringBack before after.files
  let filter := CommandLine.logFilter environment invocation.verbose
  for entry in CommandLine.shownEntries filter after.journal do
    IO.eprintln (logLine invocation.jsonLogs entry)
  match outcome with
  | .done result =>
    IO.print result.printed
    match result.ending with
    | .ok code => pure code.toUInt32
    | .error failure =>
      IO.eprint failure.text
      pure 1
  | _ => pure 101

def usage : String :=
  "Usage: raidengine [OPTIONS] run --service <SERVICE> | list | config | report <FILE>\n"

end Raid.Program

def main (arguments : List String) : IO UInt32 := do
  match Raid.CommandLine.readArguments arguments with
  | .help =>
    IO.print Raid.Program.usage
    pure 0
  | .version =>
    IO.print Raid.CommandLine.versionText
    pure 0
  | .refused =>
    IO.eprint Raid.Program.usage
    pure 2
  | .invocation invocation => Raid.Program.carryOut invocation
