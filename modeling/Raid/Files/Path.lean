/-!
Paths as texts. A path keeps the text it was given; only its reading splits it at the slashes.
-/

namespace Raid.Path

def pieces : List Char → List (List Char)
  | [] => [[]]
  | c :: rest =>
    if c = '/' then [] :: pieces rest
    else
      match pieces rest with
      | [] => [[c]]
      | piece :: others => (c :: piece) :: others

/-- The names that a path walks through. Doubled slashes add nothing. -/
def names (path : String) : List String :=
  ((pieces path.toList).filter (· ≠ [])).map String.ofList

def isAbsolute (path : String) : Bool := path.toList.head? = some '/'

/-- Puts a path below a directory. An empty directory adds nothing, a slash at its end is not
doubled, and an absolute path stands for itself. -/
def join (directory path : String) : String :=
  if isAbsolute path then path
  else if directory.isEmpty then path
  else if directory.toList.getLast? = some '/' then directory ++ path
  else directory ++ "/" ++ path

/-- Cuts slashes and steps to the same directory from the end of a reversed path. A path that
consists of slashes is the root and keeps one; a single dot stays. -/
def cutEnd : List Char → List Char
  | ['/'] => ['/']
  | '/' :: rest => cutEnd rest
  | '.' :: '/' :: rest => cutEnd ('/' :: rest)
  | other => other

def parent? (path : String) : Option String :=
  match cutEnd path.toList.reverse with
  | [] => none
  | ['/'] => none
  | reversed =>
    some (String.ofList (cutEnd (reversed.dropWhile (· ≠ '/'))).reverse)

def fileName? (path : String) : Option (List Char) :=
  match cutEnd path.toList.reverse with
  | [] => none
  | reversed =>
    let name := (reversed.takeWhile (· ≠ '/')).reverse
    if name = [] ∨ name = ['.'] ∨ name = ['.', '.'] then none else some name

/-- What follows the last dot of the last name. A name whose only dot is its first character has
no extension. -/
def extension? (path : String) : Option String := do
  let name ← fileName? path
  let reversed := name.reverse
  let after := reversed.takeWhile (· ≠ '.')
  match reversed.dropWhile (· ≠ '.') with
  | [] => none
  | _ :: before => if before = [] then none else some (String.ofList after.reverse)

inductive Component where
  | root
  /-- A step to the same directory. -/
  | here
  /-- A step to the directory above. -/
  | up
  | name (text : String)
  deriving Repr, DecidableEq

/-- What a piece within a path stands for. Steps to the same directory add nothing there. -/
def component? (piece : List Char) : Option Component :=
  if piece = [] ∨ piece = ['.'] then none
  else if piece = ['.', '.'] then some .up
  else some (.name (String.ofList piece))

/-- The components of a path, by which two paths are the same. An absolute path begins at the root; a
relative one may begin with a step to the same directory. -/
def components (path : String) : List Component :=
  let found := (pieces path.toList).filterMap component?
  if isAbsolute path then .root :: found
  else if (pieces path.toList).head? = some ['.'] then .here :: found
  else found

/-- Whether a text can stand as one name inside a path, on systems with either kind of slash. -/
def isName (text : String) : Bool :=
  match components text with
  | [.name _] => text.toList.all fun c => c ≠ '/' && c ≠ '\\'
  | _ => false

end Raid.Path
