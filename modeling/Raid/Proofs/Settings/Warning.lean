import Raid.Proofs.Results.Naming
import Raid.Proofs.Vessel.Report
import Raid.Settings.Resolution

/-!
What the warnings about a file of settings tell. Every warning is that of a flaw of the file, and every
flaw has its warning. A run of a service gets as far as its tactics and its files of results just when no
flaw stands in its way: one of the service itself, or of the defaults where it says nothing of its own.
-/

namespace Raid

inductive Flaw where
  | sharedOutput (output : String)
  | noServices
  | serviceName (service : String)
  | noTactics (service : String)
  | ownOutput (service output : String)
  deriving DecidableEq

namespace Flaw

def warning : Flaw → String
  | sharedOutput output =>
    "Invalid output '" ++ output ++ "' in [defaults]: should be json or yaml"
  | noServices => "No services defined"
  | serviceName service => "Service '" ++ service ++ "' cannot be used as a results directory name"
  | noTactics service => "Service '" ++ service ++ "' requests no tactics"
  | ownOutput service output =>
    "Invalid output '" ++ output ++ "' for service '" ++ service ++ "': should be json or yaml"

def service? : Flaw → Option String
  | serviceName service => some service
  | noTactics service => some service
  | ownOutput service _ => some service
  | _ => none

def Names (flaw : Flaw) (service : String) : Prop :=
  ∃ before after, flaw.warning = before ++ "'" ++ service ++ ("'" ++ after)

theorem names_of_service? {flaw : Flaw} {service : String} (own : flaw.service? = some service) :
    flaw.Names service := by
  cases flaw with
  | sharedOutput output => cases own
  | noServices => cases own
  | serviceName name =>
    cases own
    exact ⟨"Service ", " cannot be used as a results directory name", rfl⟩
  | noTactics name =>
    cases own
    exact ⟨"Service ", " requests no tactics", rfl⟩
  | ownOutput name output =>
    cases own
    have quote : "Invalid output '" ++ output ++ "' for service " ++ "'" =
        "Invalid output '" ++ output ++ "' for service '" := String.append_assoc
    refine ⟨"Invalid output '" ++ output ++ "' for service ", ": should be json or yaml", ?_⟩
    rw [quote]
    rfl

end Flaw

theorem readFormat_error {text : String} {error : SettingsError} :
    readFormat text = .error error ↔
      OutputFormat.parse? text = none ∧ error = .unsupportedFormat text := by
  unfold readFormat
  cases OutputFormat.parse? text <;> simp [eq_comm]

theorem readFormat_toBool (text : String) :
    (readFormat text).toBool = (OutputFormat.parse? text).isSome := by
  unfold readFormat
  cases OutputFormat.parse? text <;> rfl

/-- A run is refused for want of tactics, and for nothing else. -/
theorem Voyage.mobilize_refused {state : Voyage} {error : VesselError} :
    state.mobilize.1 = .done (.error error) ↔ state.vessel.settings.tactics = [] ∧
      error = .settings (.noTactics state.vessel.settings.serviceName) := by
  by_cases asked : state.vessel.settings.tactics = []
  · have refused : state.mobilize =
        (.done (.error (.settings (.noTactics state.vessel.settings.serviceName))), state) := by
      simp [mobilize, Act.bind_apply, vessel?, asked, Act.pure_apply]
    simp [refused, asked, eq_comm]
  · rw [mobilize_outcome asked]
    cases state.tour.1 <;> simp [Outcome.map, asked]

namespace SettingsFile

variable {file : SettingsFile}

inductive Has (file : SettingsFile) : Flaw → Prop
  | sharedOutput (unread : OutputFormat.parse? file.defaults.output = none) :
    Has file (.sharedOutput file.defaults.output)
  | noServices (none : ∀ service, file.services.get? service = none) : Has file .noServices
  | serviceName {service : String} {entry : ServiceEntry}
    (known : file.services.get? service = some entry) (unfit : ¬Path.Plain service) :
    Has file (.serviceName service)
  | noTactics {service : String} {entry : ServiceEntry}
    (known : file.services.get? service = some entry) (none : entry.tactics = []) :
    Has file (.noTactics service)
  | ownOutput {service output : String} {entry : ServiceEntry}
    (known : file.services.get? service = some entry) (said : entry.output = some output)
    (unread : OutputFormat.parse? output = none) : Has file (.ownOutput service output)

/-- A plain name is all that a file of results for some tactic asks of a service. -/
theorem resultsPath_toBool {service tactic : String} (plain : Path.Plain tactic)
    (directory : String) (format : OutputFormat) :
    (resultsPath directory service tactic format).toBool = true ↔ Path.Plain service := by
  cases named : resultsPath directory service tactic format with
  | ok path => exact iff_of_true rfl (resultsPath_eq_ok.mp named).1
  | error error =>
    refine iff_of_false (by simp [Except.toBool]) fun outer => ?_
    rw [resultsPath_eq_ok.mpr ⟨outer, plain, rfl⟩] at named
    cases named

theorem serviceWarnings_eq (service : String) (entry : ServiceEntry) :
    serviceWarnings service entry =
      (if (resultsPath "." service "tactic" .yaml).toBool then []
        else [(Flaw.serviceName service).warning]) ++
      (if entry.tactics.isEmpty then [(Flaw.noTactics service).warning] else []) ++
      match entry.output with
      | some output =>
        if (readFormat output).toBool then [] else [(Flaw.ownOutput service output).warning]
      | none => [] := rfl

theorem warnings_eq (file : SettingsFile) :
    file.warnings =
      (if (readFormat file.defaults.output).toBool then []
        else [(Flaw.sharedOutput file.defaults.output).warning]) ++
      (if file.services.isEmpty then [Flaw.noServices.warning] else []) ++
      file.services.entries.flatMap fun entry => serviceWarnings entry.1 entry.2 := rfl

theorem mem_serviceWarnings {service warning : String} {entry : ServiceEntry} :
    warning ∈ serviceWarnings service entry ↔
      (¬Path.Plain service ∧ warning = (Flaw.serviceName service).warning) ∨
      (entry.tactics = [] ∧ warning = (Flaw.noTactics service).warning) ∨
      ∃ output, entry.output = some output ∧ OutputFormat.parse? output = none ∧
        warning = (Flaw.ownOutput service output).warning := by
  have plain : Path.Plain "tactic" := Path.isName_iff.mp (by decide +kernel)
  simp only [serviceWarnings_eq, List.mem_append, ← resultsPath_toBool plain "." .yaml,
    readFormat_toBool, or_assoc]
  refine or_congr ?_ (or_congr ?_ ?_)
  · cases (resultsPath "." service "tactic" .yaml).toBool <;> simp
  · cases entry.tactics <;> simp
  · cases entry.output with
    | none => simp
    | some output => cases read : OutputFormat.parse? output <;> simp [read]

/-- The warnings about a file are those of its flaws. -/
theorem mem_warnings {warning : String} :
    warning ∈ file.warnings ↔ ∃ flaw, file.Has flaw ∧ flaw.warning = warning := by
  simp only [warnings_eq, List.mem_append, List.mem_flatMap, Prod.exists, Dict.mem_entries,
    mem_serviceWarnings, readFormat_toBool]
  constructor
  · rintro ((shared | empty) | ⟨service, entry, known, unfit | none | said⟩)
    · cases read : OutputFormat.parse? file.defaults.output with
      | some format => simp [read] at shared
      | none =>
        simp only [read, Option.isSome_none, Bool.false_eq_true, ↓reduceIte,
          List.mem_singleton] at shared
        exact ⟨_, .sharedOutput read, shared.symm⟩
    · split at empty
      · rename_i none
        refine ⟨_, .noServices fun service => ?_, (List.mem_singleton.mp empty).symm⟩
        rw [Dict.get?, List.isEmpty_iff.mp none]
        rfl
      · cases empty
    · exact ⟨_, .serviceName known unfit.1, unfit.2.symm⟩
    · exact ⟨_, .noTactics known none.1, none.2.symm⟩
    · obtain ⟨output, said, unread, same⟩ := said
      exact ⟨_, .ownOutput known said unread, same.symm⟩
  · rintro ⟨flaw, has, rfl⟩
    cases has with
    | sharedOutput unread => exact .inl (.inl (by simp [unread]))
    | noServices none =>
      refine .inl (.inr ?_)
      have empty : file.services.isEmpty = true := by
        refine List.isEmpty_iff.mpr (List.eq_nil_iff_forall_not_mem.mpr fun entry member => ?_)
        have known := Dict.mem_entries.mp member
        rw [none] at known
        cases known
      simp [empty]
    | serviceName known unfit => exact .inr ⟨_, _, known, .inl ⟨unfit, rfl⟩⟩
    | noTactics known none => exact .inr ⟨_, _, known, .inr (.inl ⟨none, rfl⟩)⟩
    | ownOutput known said unread => exact .inr ⟨_, _, known, .inr (.inr ⟨_, said, unread, rfl⟩)⟩

section

variable {service : String} {entry : ServiceEntry} {environment : Environment}
  (known : file.services.get? service = some entry)
  (unnamed : environment.get? Environment.outputName = none)

include known unnamed

/-- Where the environment names no format, that of the service's own entry counts, or that of the
defaults; without settings it is the one that is refused. -/
theorem refused_of_serviceSettings {error : SettingsError}
    (refused : file.serviceSettings service environment = .error error) :
    (∃ output, entry.output = some output ∧ error = .unsupportedFormat output ∧
      file.Has (.ownOutput service output)) ∨
    (entry.output = none ∧ error = .unsupportedFormat file.defaults.output ∧
      file.Has (.sharedOutput file.defaults.output)) := by
  simp only [serviceSettings, known, unnamed, Option.none_or] at refused
  cases read : readFormat (entry.output.getD file.defaults.output) with
  | ok format => simp [read, Except.map] at refused
  | error refusal =>
    obtain ⟨unread, rfl⟩ := readFormat_error.mp read
    rw [read] at refused
    cases refused
    cases said : entry.output with
    | some output =>
      rw [said] at unread
      exact .inl ⟨output, rfl, rfl, .ownOutput known said unread⟩
    | none =>
      rw [said] at unread
      exact .inr ⟨rfl, rfl, .sharedOutput unread⟩

theorem tactics_of_serviceSettings {settings : ServiceSettings}
    (given : file.serviceSettings service environment = .ok settings) :
    settings.tactics = entry.tactics := by
  simp only [serviceSettings, known, unnamed, Option.none_or] at given
  cases read : readFormat (entry.output.getD file.defaults.output) with
  | ok format =>
    rw [read] at given
    cases given
    rfl
  | error refusal => simp [read, Except.map] at given

end

/-- A service gets as far as its tactics and its files of results: it has settings, no run with them is
refused, and there is a file for the results of every tactic whose name is plain. -/
structure Served (service : String) (settings : ServiceSettings) : Prop where
  asks : settings.tactics ≠ []
  mobilized : ∀ voyage : Voyage, voyage.vessel.settings = settings →
    ∀ error, voyage.mobilize.1 ≠ .done (.error error)
  placed : ∀ tactic, Path.Plain tactic →
    ∃ path, resultsPath settings.writeDirectory service tactic settings.output = .ok path

def Accepts (file : SettingsFile) (service : String) (environment : Environment) : Prop :=
  ∃ settings, file.serviceSettings service environment = .ok settings ∧ Served service settings

/-- What stands in the way of a run of the service: a flaw of its own, or one of the defaults where it
names no format. -/
def Stops (entry : ServiceEntry) (service : String) (flaw : Flaw) : Prop :=
  flaw.service? = some service ∨ (entry.output = none ∧ ∃ output, flaw = .sharedOutput output)

section

variable {service : String} {entry : ServiceEntry} {environment : Environment}
  (known : file.services.get? service = some entry)
  (unnamed : environment.get? Environment.outputName = none)

include known unnamed

/-- A service is accepted just when no flaw of the file stands in its way. -/
theorem accepts_iff :
    file.Accepts service environment ↔ ∀ flaw, file.Has flaw → ¬Stops entry service flaw := by
  constructor
  · rintro ⟨settings, given, served⟩ flaw has stops
    cases has with
    | sharedOutput unread =>
      obtain own | ⟨silent, -⟩ := stops
      · cases own
      · simp [serviceSettings, known, unnamed, silent, readFormat, unread, Except.map] at given
    | noServices none =>
      rw [none service] at known
      cases known
    | serviceName other unfit =>
      obtain own | ⟨-, output, same⟩ := stops
      · cases own
        have plain : Path.Plain "tactic" := Path.isName_iff.mp (by decide +kernel)
        obtain ⟨path, named⟩ := served.placed "tactic" plain
        exact unfit (resultsPath_eq_ok.mp named).1
      · cases same
    | noTactics other none =>
      obtain own | ⟨-, output, same⟩ := stops
      · cases own
        rw [known] at other
        cases other
        exact served.asks ((tactics_of_serviceSettings known unnamed given).trans none)
      · cases same
    | ownOutput other said unread =>
      obtain own | ⟨-, output, same⟩ := stops
      · cases own
        rw [known] at other
        cases other
        simp [serviceSettings, known, unnamed, said, readFormat, unread, Except.map] at given
      · cases same
  · intro free
    have plain : Path.Plain service := by
      by_contra unfit
      exact free _ (.serviceName known unfit) (.inl rfl)
    cases given : file.serviceSettings service environment with
    | error error =>
      exfalso
      obtain ⟨output, -, -, has⟩ | ⟨silent, -, has⟩ :=
        refused_of_serviceSettings known unnamed given
      · exact free _ has (.inl rfl)
      · exact free _ has (.inr ⟨silent, _, rfl⟩)
    | ok settings =>
      have asks : settings.tactics ≠ [] := by
        rw [tactics_of_serviceSettings known unnamed given]
        exact fun none => free _ (.noTactics known none) (.inl rfl)
      refine ⟨settings, given, asks, ?_, ?_⟩
      · rintro voyage rfl error refused
        exact asks (Voyage.mobilize_refused.mp refused).1
      · intro tactic inner
        exact ⟨_, resultsPath_eq_ok.mpr ⟨plain, inner, rfl⟩⟩

end

/-- Whatever keeps a service from its settings, its tactics or its files of results in an empty
environment is warned of: by a warning about the service, or about the format of the defaults where that
is the one that is refused. -/
structure Warned (file : SettingsFile) (service : String) (entry : ServiceEntry) : Prop where
  settings : ∀ error, file.serviceSettings service {} = .error error →
    (∃ output, entry.output = some output ∧ error = .unsupportedFormat output ∧
      (Flaw.ownOutput service output).warning ∈ file.warnings) ∨
    (entry.output = none ∧ error = .unsupportedFormat file.defaults.output ∧
      (Flaw.sharedOutput file.defaults.output).warning ∈ file.warnings)
  tactics : ∀ settings, file.serviceSettings service {} = .ok settings → settings.tactics = [] →
    (Flaw.noTactics service).warning ∈ file.warnings
  results : ∀ settings, file.serviceSettings service {} = .ok settings →
    ∀ tactic error, Path.Plain tactic →
      resultsPath settings.writeDirectory service tactic settings.output = .error error →
        (Flaw.serviceName service).warning ∈ file.warnings

theorem warned {service : String} {entry : ServiceEntry}
    (known : file.services.get? service = some entry) : file.Warned service entry where
  settings error refused := by
    obtain ⟨output, said, same, has⟩ | ⟨silent, same, has⟩ :=
      refused_of_serviceSettings known (Dict.get?_empty _) refused
    · exact .inl ⟨output, said, same, mem_warnings.mpr ⟨_, has, rfl⟩⟩
    · exact .inr ⟨silent, same, mem_warnings.mpr ⟨_, has, rfl⟩⟩
  tactics settings given none := by
    rw [tactics_of_serviceSettings known (Dict.get?_empty _) given] at none
    exact mem_warnings.mpr ⟨_, .noTactics known none, rfl⟩
  results settings given tactic error inner refused := by
    refine mem_warnings.mpr ⟨_, .serviceName known fun outer => ?_, rfl⟩
    rw [resultsPath_eq_ok.mpr ⟨outer, inner, rfl⟩] at refused
    cases refused

/-- The warnings about a file of settings agree with what its runs come to. They are those of its flaws,
and those of a service name it. Where there is none, every service gets as far as its tactics and its
files of results in every environment that names no format; and what keeps a service from that in an
empty environment is warned of. -/
theorem warnings_agree (file : SettingsFile) :
    (∀ warning, warning ∈ file.warnings ↔ ∃ flaw, file.Has flaw ∧ flaw.warning = warning) ∧
    (∀ flaw service, Flaw.service? flaw = some service → flaw.Names service) ∧
    (file.warnings = [] → ∀ service entry, file.services.get? service = some entry →
      ∀ environment, environment.get? Environment.outputName = none →
        file.Accepts service environment) ∧
    ∀ service entry, file.services.get? service = some entry → file.Warned service entry := by
  refine ⟨fun _ => mem_warnings, fun _ _ => Flaw.names_of_service?, ?_, fun _ _ => warned⟩
  intro quiet service entry known environment unnamed
  refine (accepts_iff known unnamed).mpr fun flaw has _ => ?_
  have told := mem_warnings.mpr ⟨flaw, has, rfl⟩
  rw [quiet] at told
  cases told

def orderly : SettingsFile :=
  { services := Dict.ofList [
      ("api", { tactics := ["baseline"] }),
      ("storage", { tactics := ["baseline", "invasive"], output := some " JSON" })] }

/-- The format of the defaults is none. One service is left to it, one names another that is none, one
asks for nothing, and one would have its results elsewhere. -/
def disorderly : SettingsFile :=
  { defaults := { output := "xml" }
    services := Dict.ofList [
      ("../up", { tactics := ["baseline"], output := some "json" }),
      ("api", { tactics := ["baseline"] }),
      ("idle", { output := some "yml" }),
      ("odd", { tactics := ["baseline"], output := some "toml" })] }

theorem warnings_agree_disorderly :
    (orderly.warnings = [] ∧
      orderly.Accepts "storage" (Dict.ofList [(Environment.writeDirectoryName, "/tmp")])) ∧
    ["Invalid output 'xml' in [defaults]: should be json or yaml",
      "Service '../up' cannot be used as a results directory name",
      "Service 'idle' requests no tactics",
      "Invalid output 'toml' for service 'odd': should be json or yaml"] ⊆ disorderly.warnings := by
  obtain ⟨-, -, fine, -⟩ := warnings_agree orderly
  obtain ⟨-, -, -, told⟩ := warnings_agree disorderly
  have quiet : orderly.warnings = [] := by decide +kernel
  refine ⟨⟨quiet, fine quiet "storage" _ rfl _ rfl⟩, ?_⟩
  obtain ⟨output, said, -⟩ | ⟨-, -, shared⟩ := (told "api" _ rfl).settings _ rfl
  · cases said
  obtain ⟨output, said, -, odd⟩ | ⟨silent, -⟩ := (told "odd" _ rfl).settings _ rfl
  case inr => cases silent
  cases said
  have idle := (told "idle" _ rfl).tactics _ rfl rfl
  have plain : Path.Plain "baseline" := Path.isName_iff.mp (by decide +kernel)
  have up := (told "../up" _ rfl).results _ rfl "baseline" _ plain rfl
  intro warning member
  simp only [List.mem_cons, List.not_mem_nil, or_false] at member
  rcases member with rfl | rfl | rfl | rfl
  · exact shared
  · exact up
  · exact idle
  · exact odd

end SettingsFile

end Raid
