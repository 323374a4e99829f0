import Raid.Settings.Resolution
import Raid.Vessel.Mobilize

/-!
What a script asks for outside of strikes: the actions on its objects, and beyond these whole
tactics, armories, vessels and settings. And the answers to it.
-/

namespace Raid

inductive StrikeSource where
  | inline (strikes : List Strike)
  /-- The strikes of a tactic in an armory. -/
  | armory (armory : Armory) (tactic : String)
  | armoryNamed (id tactic : String)
  deriving Repr

inductive ContextSource where
  | inline (service : String) (invasive : Bool) (vars : Dict String)
  | named (id : String)
  deriving Repr

inductive ExecutedSource where
  | inline (names : List String)
  | named (id : String)
  deriving Repr

inductive ArmorySource where
  | inline (armory : Armory)
  | named (id : String)
  deriving Repr

/-- Where the settings of a vessel come from. The format of the output is read first. -/
inductive SettingsSource where
  | inline (settings : ServiceSettings) (output : String)
  | file (id service : String) (environment : Environment)
  deriving Repr

inductive Command where
  | step (step : Step)
  | strikeDebug (name : String)
  | strikeRun (context : String) (strike : Strike)
  | tactic (id name : String) (strikes : StrikeSource) (context : ContextSource)
      (executed : ExecutedSource) (listens : Bool) (listener : Option String)
  | execute (id : String)
  | tacticState (id : String)
  | persist (id directory service format : String)
  /-- Loads a tactic. `timed` tells whether its times are taken for those of the present run. -/
  | load (id path : String) (timed : Bool)
  | loadedChange (tactic strike movement change id : String)
  | armory (id : String) (armory : Armory)
  | armoryAdd (id name : String) (strikes : List Strike)
  | armoryContains (id name : String)
  | vessel (id : String) (settings : SettingsSource) (armory : ArmorySource)
      (executed : ExecutedSource) (listens : Bool)
  | mobilize (id : String)
  | settingsParse (id text : String)
  | settingsLoad (id path : String)
  | settingsLoadOrDefault (id path : String)
  | settingsSave (id path : String)
  | serviceSettings (id service : String) (environment : Environment)
  deriving Repr

/-- A tactic with what is not written down of it. -/
structure TacticView where
  report : TacticReport ChangeRecord
  strikeNames : List String
  executedNames : List String
  deriving Repr

inductive Response where
  | answer (answer : Answer)
  | struck (name : String) (state : ResultView)
  | tactic (state : TacticView)
  | executed (result : Attempt (Except TacticError Unit)) (state : TacticView)
  | file (path content : String)
  | resultsError (error : ResultsError)
  | settingsError (error : SettingsError)
  | armory (armory : Armory)
  | vessel (settings : ServiceSettings) (executed : List String) (tactics : Nat)
  | mobilized (result : Attempt (Except VesselError RunSummary)) (tactics : List TacticView)
      (executed : List String)
  | settingsFile (settings : SettingsFile)
  | text (value : String)
  | serviceSettings (settings : ServiceSettings)
  deriving Repr

end Raid
