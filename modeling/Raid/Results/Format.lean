import Raid.Files.Cause
import Raid.Files.Path
import Raid.Text.Blank

/-!
The formats that results are written in, and where they are written.
-/

namespace Raid

inductive OutputFormat where
  | json
  | yaml
  deriving Repr, DecidableEq

namespace OutputFormat

def extension : OutputFormat → String
  | json => "json"
  | yaml => "yaml"

/-- Reads a name of a format; case and blanks around it do not matter. -/
def parse? (text : String) : Option OutputFormat :=
  let word := Text.keyword text
  if word = "json" then some json
  else if word = "yaml" ∨ word = "yml" then some yaml
  else none

def ofPath (path : String) : OutputFormat :=
  if Path.extension? path = some "json" then json else yaml

end OutputFormat

inductive ResultsError where
  | invalidName (name : String)
  | createDirectory (path : String) (cause : Cause)
  /-- The text could not be made. -/
  | serialize (path reason : String)
  | write (path : String) (cause : Cause)
  | read (path : String) (cause : Cause)
  | parse (path reason : String)
  deriving Repr, DecidableEq

namespace ResultsError

def message : ResultsError → String
  | invalidName name => "'" ++ name ++ "' cannot be used as a results file name"
  | createDirectory path cause =>
    "Failed to create output directory " ++ path ++ ": " ++ cause.message
  | serialize path reason => "Failed to serialize results for " ++ path ++ ": " ++ reason
  | write path cause => "Failed to write results file at " ++ path ++ ": " ++ cause.message
  | read path cause => "Failed to read results file at " ++ path ++ ": " ++ cause.message
  | parse path reason => "Failed to parse results file at " ++ path ++ ": " ++ reason

end ResultsError

/-- The file for the results of a tactic on a service, below the directory for results. Both names
have to be single names inside a path, so that the file cannot lie elsewhere. -/
def resultsPath (directory service tactic : String) (format : OutputFormat) :
    Except ResultsError String :=
  if !Path.isName service then .error (.invalidName service)
  else if !Path.isName tactic then .error (.invalidName tactic)
  else .ok (Path.join (Path.join directory service) (tactic ++ "." ++ format.extension))

end Raid
