import Raid.Settings.Basic

/-!
The arguments of the command line. They are read from left to right: a mistake ends the reading,
and so does a wish for help or for the version.
-/

namespace Raid.CommandLine

inductive SettingsCommand where
  | «show»
  | validate
  | init
  deriving Repr, DecidableEq

structure Overrides where
  tactics : List String := []
  invasive : Bool := false
  output : Option OutputFormat := none
  writeDirectory : Option String := none
  deriving Repr

inductive Request where
  | run (service : String) (overrides : Overrides)
  | list
  | settings (command : SettingsCommand)
  | report (file : String)
  deriving Repr

structure Invocation where
  verbose : Bool := false
  jsonLogs : Bool := false
  settingsPath : String := SettingsFile.defaultPath
  request : Request
  deriving Repr

inductive Reading where
  | invocation (invocation : Invocation)
  | help
  | version
  /-- The arguments make no sense. -/
  | refused
  deriving Repr

inductive Flag where
  | help
  | version
  | verbose
  | jsonLogs
  | settingsPath
  | service
  | tactic
  | invasive
  | output
  | writeDirectory
  deriving Repr, DecidableEq

namespace Flag

def long : Flag → String
  | help => "help"
  | version => "version"
  | verbose => "verbose"
  | jsonLogs => "log-json"
  | settingsPath => "config"
  | service => "service"
  | tactic => "tactic"
  | invasive => "invasive"
  | output => "output"
  | writeDirectory => "write-dir"

def short? : Flag → Option Char
  | help => some 'h'
  | version => some 'V'
  | verbose => some 'v'
  | service => some 's'
  | tactic => some 't'
  | _ => none

def takesValue : Flag → Bool
  | settingsPath | service | tactic | output | writeDirectory => true
  | _ => false

end Flag

inductive Level where
  | root
  | run
  | list
  | settings
  | settingsCommand (command : SettingsCommand)
  | report
  deriving Repr, DecidableEq

def Level.flags : Level → List Flag
  | .root => [.help, .version, .verbose, .jsonLogs, .settingsPath]
  | .run =>
    [.help, .verbose, .jsonLogs, .settingsPath, .service, .tactic, .invasive, .output,
      .writeDirectory]
  | _ => [.help, .verbose, .jsonLogs, .settingsPath]

structure Progress where
  level : Level := .root
  /-- The options given since the last word of the command. -/
  given : List Flag := []
  verbose : Bool := false
  jsonLogs : Bool := false
  settingsPath : String := SettingsFile.defaultPath
  service : Option String := none
  overrides : Overrides := {}
  file : Option String := none

namespace Progress

/-- Takes an option with its value. Only tactics may be given more than once after one word. -/
def set (progress : Progress) (flag : Flag) (value : String) : Except Reading Progress :=
  if flag = .help then .error .help
  else if flag = .version then .error .version
  else if flag ∈ progress.given ∧ flag ≠ .tactic then .error .refused
  else
    let progress := { progress with given := flag :: progress.given }
    let overrides := progress.overrides
    match flag with
    | .help | .version => .error .refused
    | .verbose => .ok { progress with verbose := true }
    | .jsonLogs => .ok { progress with jsonLogs := true }
    | .settingsPath =>
      if value.isEmpty then .error .refused else .ok { progress with settingsPath := value }
    | .service => .ok { progress with service := some value }
    | .tactic =>
      .ok { progress with overrides := { overrides with tactics := overrides.tactics ++ [value] } }
    | .invasive => .ok { progress with overrides := { overrides with invasive := true } }
    | .output =>
      match OutputFormat.parse? value with
      | some format =>
        .ok { progress with overrides := { overrides with output := some format } }
      | none => .error .refused
    | .writeDirectory =>
      if value.isEmpty then .error .refused
      else .ok { progress with overrides := { overrides with writeDirectory := some value } }

def enter (progress : Progress) (level : Level) : Progress := { progress with level, given := [] }

def word (progress : Progress) (text : String) : Except Reading Progress :=
  match progress.level with
  | .root =>
    if text = "run" then .ok (progress.enter .run)
    else if text = "list" then .ok (progress.enter .list)
    else if text = "config" then .ok (progress.enter .settings)
    else if text = "report" then .ok (progress.enter .report)
    else .error .refused
  | .settings =>
    if text = "show" then .ok (progress.enter (.settingsCommand .show))
    else if text = "validate" then .ok (progress.enter (.settingsCommand .validate))
    else if text = "init" then .ok (progress.enter (.settingsCommand .init))
    else .error .refused
  | .report =>
    if progress.file.isSome ∨ text.isEmpty then .error .refused
    else .ok { progress with file := some text }
  | _ => .error .refused

/-- A word after the mark that ends the options: only a file can be named there. -/
def lateWord (progress : Progress) (text : String) : Except Reading Progress :=
  if progress.level = .report then progress.word text else .error .refused

def flag? (progress : Progress) (test : Flag → Bool) : Option Flag := progress.level.flags.find? test

/-- Takes options of one letter that stand together. The last one may take the rest as its value,
or wait for the next argument. -/
def letters (progress : Progress) : List Char → Except Reading (Progress × Option Flag)
  | [] => .ok (progress, none)
  | c :: rest =>
    match progress.flag? fun flag => flag.short? = some c with
    | none => .error .refused
    | some flag =>
      if flag.takesValue then
        match rest with
        | [] => .ok (progress, some flag)
        | '=' :: value => do .ok (← progress.set flag (String.ofList value), none)
        | value => do .ok (← progress.set flag (String.ofList value), none)
      else do letters (← progress.set flag "") rest

def longOption (progress : Progress) (text : List Char) :
    Except Reading (Progress × Option Flag) :=
  let name := String.ofList (text.takeWhile (· ≠ '='))
  match progress.flag? (·.long = name), text.dropWhile (· ≠ '=') with
  | none, _ => .error .refused
  | some flag, [] =>
    if flag.takesValue then .ok (progress, some flag)
    else do .ok (← progress.set flag "", none)
  | some flag, _ :: value =>
    if flag.takesValue then do .ok (← progress.set flag (String.ofList value), none)
    else .error .refused

def finish (progress : Progress) : Reading :=
  let invocation (request : Request) : Reading :=
    .invocation
      { verbose := progress.verbose, jsonLogs := progress.jsonLogs
        settingsPath := progress.settingsPath, request }
  match progress.level with
  | .root => .refused
  | .run =>
    match progress.service with
    | some service => invocation (.run service progress.overrides)
    | none => .refused
  | .list => invocation .list
  | .settings => invocation (.settings .show)
  | .settingsCommand command => invocation (.settings command)
  | .report =>
    match progress.file with
    | some file => invocation (.report file)
    | none => .refused

end Progress

def helpTopics : Level → List (String × Level)
  | .root =>
    [("run", .run), ("list", .list), ("config", .settings), ("report", .report),
      ("help", .list)]
  | .settings =>
    [("show", .settingsCommand .show), ("validate", .settingsCommand .validate),
      ("init", .settingsCommand .init), ("help", .list)]
  | _ => []

def helpOn (level : Level) : List String → Reading
  | [] => .help
  | word :: rest =>
    match (helpTopics level).find? (·.1 = word) with
    | some topic => helpOn topic.2 rest
    | none => .refused

def hasHelpWord (level : Level) : Bool := level = .root || level = .settings

def readLate (progress : Progress) : List String → Reading
  | [] => progress.finish
  | text :: rest =>
    match progress.lateWord text with
    | .ok progress => readLate progress rest
    | .error reading => reading

def argument (progress : Progress) (text : String) : Except Reading (Progress × Option Flag) :=
  match text.toList with
  | '-' :: '-' :: name => progress.longOption name
  | '-' :: c :: rest => progress.letters (c :: rest)
  | _ => do .ok (← progress.word text, none)

def startsOption (text : String) : Bool :=
  match text.toList with
  | '-' :: _ :: _ => true
  | _ => false

/-- Reads arguments. `waiting` is the option that the next one is the value of. -/
def read (progress : Progress) (waiting : Option Flag) : List String → Reading
  | [] => if waiting.isSome then .refused else progress.finish
  | text :: rest =>
    match waiting with
    | some flag =>
      if startsOption text then .refused
      else
        match progress.set flag text with
        | .ok progress => read progress none rest
        | .error reading => reading
    | none =>
      if text = "--" then readLate progress rest
      else if text = "help" ∧ hasHelpWord progress.level then helpOn progress.level rest
      else
        match argument progress text with
        | .ok (progress, waiting) => read progress waiting rest
        | .error reading => reading

def readArguments (arguments : List String) : Reading := read {} none arguments

end Raid.CommandLine
