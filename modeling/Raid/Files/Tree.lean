import Raid.Files.Cause
import Raid.Files.Path
import Raid.Files.Permissions

/-!
A tree of files and directories, and what the system does with it. Every entry stands under its
location, the list of names from the root; operations take paths as texts and answer with a cause
when the system would refuse them. Permission bits do not stand in the way themselves, as for a
privileged user; what the system refuses nevertheless, or to other users, the tree says place by
place.
-/

namespace Raid

abbrev Location := List String

inductive Entry where
  | file (content : String) (permissions : Permissions)
  | directory (permissions : Permissions)
  deriving Repr, DecidableEq

namespace Entry

def permissions : Entry → Permissions
  | file _ permissions => permissions
  | directory permissions => permissions

def withPermissions (permissions : Permissions) : Entry → Entry
  | file content _ => file content permissions
  | directory _ => directory permissions

def isDirectory : Entry → Bool
  | file .. => false
  | directory _ => true

end Entry

/-- Entries by location, in the order of their creation, and the directory that relative paths
start from. The root is always a directory; an entry for it tells of its permissions alone. -/
structure FileTree where
  entries : List (Location × Entry) := []
  workingDirectory : Location := []
  /-- Where the system lets nothing be made, written, removed or given other permissions, and
  why. -/
  refuses : Location → Option Cause := fun _ => none

namespace FileTree

def findAt? (location : Location) : List (Location × Entry) → Option Entry
  | [] => none
  | (place, entry) :: rest => if place = location then some entry else findAt? location rest

def putAt (location : Location) (entry : Entry) :
    List (Location × Entry) → List (Location × Entry)
  | [] => [(location, entry)]
  | (place, old) :: rest =>
    if place = location then (place, entry) :: rest else (place, old) :: putAt location entry rest

def rootPermissions (tree : FileTree) : Permissions :=
  ((findAt? [] tree.entries).map Entry.permissions).getD .newDirectory

def entryAt? (tree : FileTree) (location : Location) : Option Entry :=
  if location = [] then some (.directory tree.rootPermissions) else findAt? location tree.entries

def put (tree : FileTree) (location : Location) (entry : Entry) : FileTree :=
  { tree with entries := putAt location entry tree.entries }

def erase (tree : FileTree) (location : Location) : FileTree :=
  { tree with entries := tree.entries.filter fun cell => cell.1 ≠ location }

theorem findAt?_putAt (location other : Location) (entry : Entry)
    (entries : List (Location × Entry)) :
    findAt? other (putAt location entry entries) =
      if other = location then some entry else findAt? other entries := by
  induction entries with
  | nil => simp [putAt, findAt?, eq_comm]
  | cons head rest ih =>
    obtain ⟨place, old⟩ := head
    simp only [putAt]
    split <;> simp only [findAt?, ih] <;> grind

theorem entryAt?_put (tree : FileTree) (location other : Location) (entry : Entry)
    (below : location ≠ []) :
    (tree.put location entry).entryAt? other =
      if other = location then some entry else tree.entryAt? other := by
  have root : ([] : Location) ≠ location := Ne.symm below
  simp only [entryAt?, rootPermissions, put, findAt?_putAt, if_neg root]
  grind

/-- At the root a directory leaves its permissions, and nothing else happens. -/
theorem entryAt?_put_root (tree : FileTree) (other : Location) (permissions : Permissions) :
    (tree.put [] (.directory permissions)).entryAt? other =
      if other = [] then some (.directory permissions) else tree.entryAt? other := by
  simp only [entryAt?, rootPermissions, put, findAt?_putAt]
  split
  · simp [Entry.permissions]
  · rfl

/-- The greatest length of a name, and of a path with its end mark, in bytes. -/
def greatestName : Nat := 255

def greatestPath : Nat := 4096

/-- One step from a directory to the entry of a name, which need not exist. -/
def step (tree : FileTree) (location : Location) (name : String) : Except Cause Location :=
  match tree.entryAt? location with
  | none => .error .notFound
  | some (.file ..) => .error .notDirectory
  | some (.directory _) =>
    if name = "." then .ok location
    else if name = ".." then .ok location.dropLast
    else if greatestName < name.utf8ByteSize then .error .nameTooLong
    else .ok (location ++ [name])

def walk (tree : FileTree) : Location → List String → Except Cause Location
  | location, [] => .ok location
  | location, name :: rest =>
    match tree.step location name with
    | .error cause => .error cause
    | .ok next => walk tree next rest

def locate (tree : FileTree) (path : String) : Except Cause Location :=
  if path.toList.contains '\x00' then .error .nulInPath
  else if path.isEmpty then .error .notFound
  else if greatestPath ≤ path.utf8ByteSize then .error .nameTooLong
  else
    tree.walk (if Path.isAbsolute path then [] else tree.workingDirectory) (Path.names path)

/-- Whether the path's text asks for a directory. -/
def asksDirectory (path : String) : Bool := path.toList.getLast? = some '/'

def lookup (tree : FileTree) (path : String) : Except Cause (Location × Entry) :=
  match tree.locate path with
  | .error cause => .error cause
  | .ok location =>
    match tree.entryAt? location with
    | none => .error .notFound
    | some entry =>
      if asksDirectory path && !entry.isDirectory then .error .notDirectory
      else .ok (location, entry)

def exists? (tree : FileTree) (path : String) : Bool := (tree.lookup path).toBool

def isDirectory (tree : FileTree) (path : String) : Bool :=
  match tree.lookup path with
  | .ok (_, entry) => entry.isDirectory
  | .error _ => false

def read (tree : FileTree) (path : String) : Except Cause String :=
  match tree.lookup path with
  | .error cause => .error cause
  | .ok (_, .directory _) => .error .isDirectory
  | .ok (_, .file content _) => .ok content

def permissions (tree : FileTree) (path : String) : Except Cause Permissions :=
  (tree.lookup path).map fun found => found.2.permissions

def changed (tree : FileTree) (location : Location) (after : FileTree) : Except Cause FileTree :=
  match tree.refuses location with
  | some cause => .error cause
  | none => .ok after

def setPermissions (tree : FileTree) (path : String) (permissions : Permissions) :
    Except Cause FileTree :=
  match tree.lookup path with
  | .error cause => .error cause
  | .ok (location, entry) =>
    tree.changed location (tree.put location (entry.withPermissions permissions))

def countEntries (tree : FileTree) (path : String) : Except Cause Nat :=
  match tree.lookup path with
  | .error cause => .error cause
  | .ok (_, .file ..) => .error .notDirectory
  | .ok (location, .directory _) =>
    .ok (tree.entries.filter fun cell => cell.1 ≠ [] && cell.1.dropLast = location).length

/-- Writes a file, making it if it does not exist. A file that exists keeps its permissions. -/
def write (tree : FileTree) (path content : String) : Except Cause FileTree :=
  match tree.locate path with
  | .error cause => .error cause
  | .ok location =>
    match tree.entryAt? location with
    | some (.directory _) => .error .isDirectory
    | some (.file _ permissions) =>
      if asksDirectory path then .error .notDirectory
      else tree.changed location (tree.put location (.file content permissions))
    | none =>
      if asksDirectory path then .error .isDirectory
      else tree.changed location (tree.put location (.file content .newFile))

def removeFile (tree : FileTree) (path : String) : Except Cause FileTree :=
  match tree.lookup path with
  | .error cause => .error cause
  | .ok (_, .directory _) => .error .isDirectory
  | .ok (location, .file ..) => tree.changed location (tree.erase location)

def makeDirectory (tree : FileTree) (path : String) : Except Cause FileTree :=
  match tree.locate path with
  | .error cause => .error cause
  | .ok location =>
    match tree.entryAt? location with
    | some _ => .error .alreadyExists
    | none => tree.changed location (tree.put location (.directory .newDirectory))

/-- Makes a directory and those above it that are missing. The bound on the number of ascents is
the length of the path. On a refusal the directories made so far stay. -/
def makeDirectoriesWithin : Nat → FileTree → String → Except Cause Unit × FileTree
  | 0, tree, _ => (.error .notFound, tree)
  | ascents + 1, tree, path =>
    if path.isEmpty then (.ok (), tree)
    else
      match tree.makeDirectory path with
      | .ok made => (.ok (), made)
      | .error .notFound =>
        match Path.parent? path with
        | none => (.error .notFound, tree)
        | some above =>
          match makeDirectoriesWithin ascents tree above with
          | (.error cause, tree) => (.error cause, tree)
          | (.ok (), tree) =>
            match tree.makeDirectory path with
            | .ok made => (.ok (), made)
            | .error cause =>
              if tree.isDirectory path then (.ok (), tree) else (.error cause, tree)
      | .error cause => if tree.isDirectory path then (.ok (), tree) else (.error cause, tree)

def makeDirectories (tree : FileTree) (path : String) : Except Cause Unit × FileTree :=
  makeDirectoriesWithin (path.length + 1) tree path

/-- Puts a file, or for a path that ends in a slash a directory, below the working directory,
with the directories above it. It is put there from outside, where nothing is refused. -/
def plant (tree : FileTree) (path content : String) : FileTree :=
  let location := tree.workingDirectory ++ Path.names path
  if asksDirectory path then plantDirectories tree tree.workingDirectory (Path.names path)
  else
    (plantDirectories tree tree.workingDirectory (Path.names path).dropLast).put location
      (.file content .newFile)
where
  /-- Makes the directories of these names, each below the one before. -/
  plantDirectories (tree : FileTree) (location : Location) : List String → FileTree
    | [] => tree
    | name :: rest =>
      let next := location ++ [name]
      let tree :=
        if (tree.entryAt? next).isSome then tree else tree.put next (.directory .newDirectory)
      plantDirectories tree next rest

/-- Removes an entry with everything below it; `false` when there is none. -/
def prune (tree : FileTree) (path : String) : Bool × FileTree :=
  match tree.lookup path with
  | .error _ => (false, tree)
  | .ok (location, _) =>
    (true, { tree with entries := tree.entries.filter fun cell => !location.isPrefixOf cell.1 })

/-- The entries below the working directory, under the names from there on. -/
def below (tree : FileTree) : List (Location × Entry) :=
  tree.entries.filterMap fun (location, entry) =>
    if tree.workingDirectory.isPrefixOf location ∧ location ≠ tree.workingDirectory then
      some (location.drop tree.workingDirectory.length, entry)
    else none

end FileTree

end Raid
