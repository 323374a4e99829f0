import Raid.CommandLine.Execution

/-!
Where the settings of a run come from. Each of them is said in layers: on the command line, in the
environment, in the entry of the service, and for every service. The highest layer that says
anything is what counts. The format of the results is the exception: what stands below the command
line is read first, and a text that names no format is refused even where the command line names
one.
-/

namespace Raid

deriving instance DecidableEq for ServiceEntry, SettingsFile

inductive OnTop {α : Type} : List (Option α) → α → Prop
  | here (value : α) (under : List (Option α)) : OnTop (some value :: under) value
  | there {value : α} {layers : List (Option α)} (under : OnTop layers value) :
    OnTop (none :: layers) value

/-- Layers that differ at most in what lies under a value. -/
inductive SameOnTop {α : Type} : List (Option α) → List (Option α) → Prop
  | empty : SameOnTop [] []
  | here (value : α) (under others : List (Option α)) :
    SameOnTop (some value :: under) (some value :: others)
  | there {layers others : List (Option α)} (under : SameOnTop layers others) :
    SameOnTop (none :: layers) (none :: others)

section

variable {α : Type} {layers others : List (Option α)} {value other : α}

theorem OnTop.unique (first : OnTop layers value) (second : OnTop layers other) :
    value = other := by
  induction first with
  | here value under =>
    cases second
    rfl
  | there under ih =>
    cases second with
    | there under => exact ih under

theorem SameOnTop.onTop (same : SameOnTop layers others) (top : OnTop layers value) :
    OnTop others value := by
  induction same with
  | empty => cases top
  | here value under others =>
    cases top
    exact .here value others
  | there under ih =>
    cases top with
    | there top => exact .there (ih top)

theorem SameOnTop.value_eq (same : SameOnTop layers others) (top : OnTop layers value)
    (top' : OnTop others other) : value = other :=
  (same.onTop top).unique top'

theorem OnTop.getD (first : Option α) (top : OnTop layers value) :
    OnTop (first :: layers) (first.getD value) := by
  cases first with
  | none => exact .there top
  | some first => exact .here first layers

theorem onTop_or_getD (first second : Option α) (last : α) :
    OnTop [first, second, some last] ((first.or second).getD last) := by
  cases first with
  | none => exact .there (.getD second (.here last []))
  | some first => exact .here first _

end

structure Layers where
  overrides : CommandLine.Overrides
  environment : Environment
  entry : ServiceEntry
  defaults : SharedSettings

namespace Layers

def tactics (layers : Layers) : List (Option (List String)) :=
  [if layers.overrides.tactics.isEmpty then none else some layers.overrides.tactics,
    some layers.entry.tactics]

def invasive (layers : Layers) : List (Option Bool) :=
  [if layers.overrides.invasive then some true else none,
    (layers.environment.get? Environment.invasiveName).map saysYes, layers.entry.invasive,
    some layers.defaults.invasive]

def writeDirectory (layers : Layers) : List (Option String) :=
  [layers.overrides.writeDirectory, layers.environment.get? Environment.writeDirectoryName,
    layers.entry.writeDirectory, some layers.defaults.writeDirectory]

def writtenOutput (layers : Layers) : List (Option String) :=
  [layers.environment.get? Environment.outputName, layers.entry.output,
    some layers.defaults.output]

def output (layers : Layers) : List (Option String) :=
  layers.overrides.output.map OutputFormat.extension :: layers.writtenOutput

/-- The settings of a service in which each one is what stands highest. -/
structure Gives (layers : Layers) (service : String) (settings : ServiceSettings) : Prop where
  serviceName : settings.serviceName = service
  vars : settings.vars = layers.entry.vars
  tactics : OnTop layers.tactics settings.tactics
  invasive : OnTop layers.invasive settings.invasive
  writeDirectory : OnTop layers.writeDirectory settings.writeDirectory
  output : ∃ name, OnTop layers.output name ∧ OutputFormat.parse? name = some settings.output

/-- What is said differs at most where something stands above it. -/
structure Alike (layers others : Layers) : Prop where
  vars : layers.entry.vars = others.entry.vars
  tactics : SameOnTop layers.tactics others.tactics
  invasive : SameOnTop layers.invasive others.invasive
  writeDirectory : SameOnTop layers.writeDirectory others.writeDirectory
  output : SameOnTop layers.output others.output

/-- The name of the format that counts as long as the command line names none. -/
def writtenName (layers : Layers) : String :=
  ((layers.environment.get? Environment.outputName).or layers.entry.output).getD
    layers.defaults.output

def refusal? (layers : Layers) : Option SettingsError :=
  match readFormat layers.writtenName with
  | .ok _ => none
  | .error error => some error

theorem refusal?_eq_some {layers : Layers} {error : SettingsError}
    (refused : layers.refusal? = some error) : readFormat layers.writtenName = .error error := by
  unfold refusal? at refused
  split at refused
  · cases refused
  · rename_i read
    cases refused
    exact read

theorem refusal?_eq_none {layers : Layers} (accepted : layers.refusal? = none) :
    ∃ format, readFormat layers.writtenName = .ok format ∧
      OutputFormat.parse? layers.writtenName = some format := by
  unfold refusal? readFormat at accepted
  cases found : OutputFormat.parse? layers.writtenName with
  | none => simp [found] at accepted
  | some format => exact ⟨format, by rw [readFormat, found], rfl⟩

theorem onTop_writtenName (layers : Layers) : OnTop layers.writtenOutput layers.writtenName :=
  onTop_or_getD _ _ _

theorem Gives.unique {layers others : Layers} {service : String}
    {settings other : ServiceSettings} (alike : layers.Alike others)
    (gives : layers.Gives service settings) (gives' : others.Gives service other) :
    settings = other := by
  have serviceName : settings.serviceName = other.serviceName :=
    gives.serviceName.trans gives'.serviceName.symm
  have vars : settings.vars = other.vars :=
    calc settings.vars = layers.entry.vars := gives.vars
      _ = others.entry.vars := alike.vars
      _ = other.vars := gives'.vars.symm
  have tactics : settings.tactics = other.tactics :=
    alike.tactics.value_eq gives.tactics gives'.tactics
  have invasive : settings.invasive = other.invasive :=
    alike.invasive.value_eq gives.invasive gives'.invasive
  have writeDirectory : settings.writeDirectory = other.writeDirectory :=
    alike.writeDirectory.value_eq gives.writeDirectory gives'.writeDirectory
  have output : settings.output = other.output := by
    obtain ⟨name, top, read⟩ := gives.output
    obtain ⟨name', top', read'⟩ := gives'.output
    have same : name = name' := alike.output.value_eq top top'
    rw [same, read'] at read
    exact (Option.some.inj read).symm
  cases settings
  cases other
  simp_all only

theorem Alike.refusal?_eq {layers others : Layers} (alike : layers.Alike others)
    (unsaid : layers.overrides.output = none) : layers.refusal? = others.refusal? := by
  have same := alike.output
  rw [Layers.output, Layers.output, unsaid] at same
  have names : layers.writtenName = others.writtenName := by
    cases said : others.overrides.output with
    | none =>
      rw [said] at same
      cases same with
      | there same => exact same.value_eq layers.onTop_writtenName others.onTop_writtenName
    | some format =>
      rw [said] at same
      cases same
  rw [refusal?, refusal?, names]

end Layers

namespace OutputFormat

theorem parse?_extension (format : OutputFormat) : parse? format.extension = some format := by
  cases format <;> decide

end OutputFormat

namespace SettingsFile

def layers? (file : SettingsFile) (service : String) (environment : Environment)
    (overrides : CommandLine.Overrides) : Option Layers :=
  (file.services.get? service).map fun entry => ⟨overrides, environment, entry, file.defaults⟩

def runSettings (file : SettingsFile) (service : String) (environment : Environment)
    (overrides : CommandLine.Overrides) : Except SettingsError ServiceSettings :=
  (file.serviceSettings service environment).map overrides.apply

variable {file : SettingsFile} {service : String} {environment : Environment}
  {overrides : CommandLine.Overrides} {layers : Layers}

theorem runSettings_of_refused (found : file.layers? service environment overrides = some layers)
    {error : SettingsError} (refused : layers.refusal? = some error) :
    file.runSettings service environment overrides = .error error := by
  obtain ⟨entry, known, rfl⟩ := Option.map_eq_some_iff.mp found
  have read := Layers.refusal?_eq_some refused
  simp only [Layers.writtenName] at read
  simp only [runSettings, serviceSettings, known, read]
  rfl

theorem runSettings_of_accepted (found : file.layers? service environment overrides = some layers)
    (accepted : layers.refusal? = none) :
    ∃ settings, file.runSettings service environment overrides = .ok settings ∧
      layers.Gives service settings := by
  obtain ⟨entry, known, rfl⟩ := Option.map_eq_some_iff.mp found
  obtain ⟨format, read, named⟩ := Layers.refusal?_eq_none accepted
  have written := Layers.onTop_writtenName ⟨overrides, environment, entry, file.defaults⟩
  simp only [Layers.writtenName] at read
  simp only [runSettings, serviceSettings, known, read]
  refine ⟨_, rfl, ?_⟩
  constructor
  case serviceName => rfl
  case vars => rfl
  case tactics =>
    simp only [Layers.tactics, CommandLine.Overrides.apply]
    split
    · exact .there (.here _ _)
    · exact .here _ _
  case invasive =>
    simp only [Layers.invasive, CommandLine.Overrides.apply]
    cases overrides.invasive with
    | true => exact .here true _
    | false =>
      cases environment.get? Environment.invasiveName with
      | some text => exact .there (.here _ _)
      | none => exact .there (.there (.getD _ (.here _ _)))
  case writeDirectory => exact .getD _ (onTop_or_getD _ _ _)
  case output =>
    cases chosen : overrides.output with
    | none =>
      refine ⟨Layers.writtenName ⟨overrides, environment, entry, file.defaults⟩, ?_, ?_⟩
      · simp only [Layers.output, chosen]
        exact .there written
      · simp only [CommandLine.Overrides.apply, chosen]
        exact named
    | some format =>
      refine ⟨format.extension, ?_, ?_⟩
      · simp only [Layers.output, chosen]
        exact .here _ _
      · simp only [CommandLine.Overrides.apply, chosen]
        exact OutputFormat.parse?_extension format

/-- What is said alike gives the same settings or the same error just when the names of formats
below the command line are both accepted or refused alike. -/
theorem runSettings_eq_iff {file' : SettingsFile} {environment' : Environment}
    {overrides' : CommandLine.Overrides} {others : Layers}
    (found : file.layers? service environment overrides = some layers)
    (found' : file'.layers? service environment' overrides' = some others)
    (alike : layers.Alike others) :
    file.runSettings service environment overrides =
        file'.runSettings service environment' overrides' ↔
      layers.refusal? = others.refusal? := by
  cases refused : layers.refusal? with
  | some error =>
    rw [runSettings_of_refused found refused]
    cases refused' : others.refusal? with
    | some error' =>
      rw [runSettings_of_refused found' refused']
      simp
    | none =>
      obtain ⟨settings, given, -⟩ := runSettings_of_accepted found' refused'
      simp [given]
  | none =>
    obtain ⟨settings, given, gives⟩ := runSettings_of_accepted found refused
    rw [given]
    cases refused' : others.refusal? with
    | some error' =>
      rw [runSettings_of_refused found' refused']
      simp
    | none =>
      obtain ⟨settings', given', gives'⟩ := runSettings_of_accepted found' refused'
      simp only [given', gives.unique alike gives']

end SettingsFile

namespace CommandLine

def runWith (runId : String) (settings : ServiceSettings) : Task Result := do
  let executed ← Task.newExecuted []
  match ← mobilize { settings, armory := .directory, executed } with
  | .error error => pure (.failed "" (.run error))
  | .ok summary => pure { printed := summaryText runId summary, ending := .ok summary.exitCode }

def runOrFail (runId : String) : Except SettingsError ServiceSettings → Task Result
  | .error error => pure (.failed "" (.settings none error))
  | .ok settings => runWith runId settings

theorem run_eq {surroundings : Surroundings} {path service : String} {overrides : Overrides}
    {world : World} {file : SettingsFile} (loaded : SettingsFile.load world.files path = .ok file) :
    run surroundings path service overrides world =
      runOrFail surroundings.runId
        (file.runSettings service surroundings.environment overrides) world := by
  simp only [run, Act.bind_apply, Act.read_apply, loaded, SettingsFile.runSettings]
  cases file.serviceSettings service surroundings.environment with
  | error error => rfl
  | ok settings => rfl

/-- The settings of a run, layer by layer. A run is mobilized with what stands highest, unless the
name of a format below the command line is refused. Where two files and environments differ at most
in what something stands above, they give the same settings or the same error, as long as the
command line names no format, and otherwise just when the names below it are both accepted or
refused alike. -/
theorem run_layered {file : SettingsFile} {service : String} {environment : Environment}
    {overrides : Overrides} {layers : Layers}
    (found : file.layers? service environment overrides = some layers) :
    (∀ world path runId, SettingsFile.load world.files path = .ok file →
      run { environment, runId } path service overrides world =
        runOrFail runId (file.runSettings service environment overrides) world) ∧
    (∀ error, layers.refusal? = some error →
      file.runSettings service environment overrides = .error error) ∧
    (layers.refusal? = none →
      ∃ settings, file.runSettings service environment overrides = .ok settings ∧
        layers.Gives service settings) ∧
    ∀ (file' : SettingsFile) (environment' : Environment) (others : Layers),
      file'.layers? service environment' overrides = some others → layers.Alike others →
        (overrides.output = none → file.runSettings service environment overrides =
          file'.runSettings service environment' overrides) ∧
        (file.runSettings service environment overrides =
          file'.runSettings service environment' overrides ↔
            layers.refusal? = others.refusal?) := by
  refine ⟨?_, ?_, ?_, ?_⟩
  · intro world path runId loaded
    exact run_eq loaded
  · intro error refused
    exact SettingsFile.runSettings_of_refused found refused
  · exact SettingsFile.runSettings_of_accepted found
  · intro file' environment' others found' alike
    have same := SettingsFile.runSettings_eq_iff found found' alike
    refine ⟨?_, same⟩
    intro unsaid
    apply same.mpr
    apply alike.refusal?_eq
    obtain ⟨entry, -, rfl⟩ := Option.map_eq_some_iff.mp found
    exact unsaid

def storage : SettingsFile :=
  { services := Dict.ofList
      [("svc", { tactics := ["baseline"], vars := Dict.ofList [("target_dir", "target")] })] }

def naming (output : String) : Environment := Dict.ofList [(Environment.outputName, output)]

def flagged : Overrides := { output := some .json }

def storageLayers (output : String) : Layers where
  overrides := flagged
  environment := naming output
  entry := { tactics := ["baseline"], vars := Dict.ofList [("target_dir", "target")] }
  defaults := {}

theorem layers?_storage (output : String) :
    storage.layers? "svc" (naming output) flagged = some (storageLayers output) := rfl

theorem storageLayers_alike (output other : String) :
    (storageLayers output).Alike (storageLayers other) where
  vars := rfl
  tactics := .there (.here _ _ _)
  invasive := .there (.there (.there (.here _ _ _)))
  writeDirectory := .there (.there (.there (.here _ _ _)))
  output := .here _ _ _

def storageFiles : FileTree where
  entries := [(["raid.toml"], .file storage.text .newFile)]

theorem load_storageFiles : SettingsFile.load storageFiles "raid.toml" = .ok storage := by
  have found : (SettingsFile.load storageFiles "raid.toml").toOption = some storage := by
    decide +kernel
  cases loaded : SettingsFile.load storageFiles "raid.toml" with
  | error error =>
    rw [loaded] at found
    cases found
  | ok file =>
    rw [loaded] at found
    rw [Option.some.inj found]

theorem run_layered_storage :
    (storageLayers "yaml").Alike (storageLayers "yml") ∧
    storage.runSettings "svc" (naming "yaml") flagged =
      storage.runSettings "svc" (naming "yml") flagged ∧
    ∃ settings, (storageLayers "yaml").Gives "svc" settings ∧
      run { environment := naming "yaml", runId := "r" } "raid.toml" "svc" flagged
          { files := storageFiles } =
        runWith "r" settings { files := storageFiles } := by
  obtain ⟨runs, -, accepted, same⟩ := run_layered (layers?_storage "yaml")
  have alike := storageLayers_alike "yaml" "yml"
  refine ⟨alike, ?_, ?_⟩
  · apply (same _ _ _ (layers?_storage "yml") alike).2.mpr
    decide
  · obtain ⟨settings, given, gives⟩ := accepted (by decide)
    refine ⟨settings, gives, ?_⟩
    rw [runs { files := storageFiles } "raid.toml" "r" load_storageFiles, given]
    rfl

/-- A name that the command line stands above decides whether there is a run. -/
theorem not_independent_storage :
    (storageLayers "yaml").Alike (storageLayers "xml") ∧
    (∃ settings, storage.runSettings "svc" (naming "yaml") flagged = .ok settings) ∧
    storage.runSettings "svc" (naming "xml") flagged = .error (.unsupportedFormat "xml") := by
  refine ⟨storageLayers_alike _ _, ?_, ?_⟩
  · obtain ⟨settings, given, -⟩ :=
      SettingsFile.runSettings_of_accepted (layers?_storage "yaml") (by decide)
    exact ⟨settings, given⟩
  · exact SettingsFile.runSettings_of_refused (layers?_storage "xml") (by decide)

end CommandLine

end Raid
