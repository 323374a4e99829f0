import Raid.Armory.Directory
import Raid.Script.Run

/-!
Strikes: named checks of a target.
-/

namespace Raid

inductive StrikeBody where
  | scripted (script : StrikeScript)
  | directory (check : DirectoryCheck)
  deriving Repr

structure Strike where
  name : String
  body : StrikeBody
  deriving Repr

namespace Strike

def run (strike : Strike) (context : StrikeContext) : Task StrikeResult :=
  match strike.body with
  | .scripted script => Script.runStrike strike.name script context
  | .directory check => check.run context

def debugText (strike : Strike) : String :=
  "Strike \x7b name: " ++ Text.shown strike.name ++ " \x7d"

end Strike

end Raid
