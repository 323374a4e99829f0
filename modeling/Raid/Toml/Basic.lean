import Raid.Document.Node

/-!
Tables of settings as they are read: values by key, and for each table how it came about, because
that decides where the text may add to it later.
-/

namespace Raid

/-- How a table came about. -/
inductive TableOrigin where
  /-- It has a header of its own. -/
  | header
  /-- A header names a table below it. -/
  | implied
  /-- A dotted key goes through it. -/
  | dotted
  /-- It is written between braces, which close it for good. -/
  | braces
  deriving Repr, DecidableEq

inductive Toml where
  | text (value : String)
  | flag (value : Bool)
  | number
  /-- A date, a time, or both. -/
  | date (written : String)
  /-- A list; `ofTables` when each item has a header of its own. -/
  | list (ofTables : Bool) (items : List Toml)
  | table (origin : TableOrigin) (entries : List (String × Toml))
  deriving Repr, Inhabited

namespace Toml

def text? : Toml → Option String
  | .text value => some value
  | _ => none

def flag? : Toml → Option Bool
  | .flag value => some value
  | _ => none

def items? : Toml → Option (List Toml)
  | .list _ items => some items
  | _ => none

/-- The only key of a date when it is taken for a table. -/
def dateKey : String := "$__toml_private_datetime"

def entries? : Toml → Option (List (Toml × Toml))
  | .table _ entries => some (entries.map fun entry => (.text entry.1, entry.2))
  | .date written => some [(.text dateKey, .text written)]
  | _ => none

instance : DocumentNode Toml where
  text? := text?
  flag? := flag?
  natural? _ := none
  isNull _ := false
  word? := text?
  json? _ := none
  items? := items?
  entries? := entries?
  boundsItems := false

abbrev Body := TableOrigin × List (String × Toml)

def replaceEntry (key : String) (value : Toml) : List (String × Toml) → List (String × Toml)
  | [] => []
  | (found, old) :: rest =>
    if found = key then (found, value) :: rest else (found, old) :: replaceEntry key value rest

/-- Changes the table at the end of a path, making those on the way that are missing. A path goes
through the last of several tables of one header, and never through braces; a dotted one goes
through no table that has a header. -/
def extend (dotted : Bool) (change : Body → Option Body) : List String → Body → Option Body
  | [], body => change body
  | key :: rest, (origin, entries) =>
    match valueAt? key entries with
    | none => do
      let (inner, found) ← extend dotted change rest (if dotted then .dotted else .implied, [])
      some (origin, entries ++ [(key, .table inner found)])
    | some (.table inner found) =>
      if inner = .braces ∨ (dotted ∧ inner = .header) then none
      else do
        let (inner, found) ← extend dotted change rest (inner, found)
        some (origin, replaceEntry key (.table inner found) entries)
    | some (.list true items) =>
      match items.reverse with
      | .table inner found :: before => do
        let (inner, found) ← extend dotted change rest (inner, found)
        let items := (.table inner found :: before).reverse
        some (origin, replaceEntry key (.list true items) entries)
      | _ => none
    | some _ => none

/-- Adds a value to a table. No key is given twice, and a table of dotted keys takes only those. -/
def addValue (dotted : Bool) (key : String) (value : Toml) : Body → Option Body
  | (origin, entries) =>
    if dotted ≠ (origin = .dotted) then none
    else if (valueAt? key entries).isSome then none
    else some (origin, entries ++ [(key, value)])

def addAt (path : List String) (key : String) (value : Toml) (body : Body) : Option Body :=
  extend true (addValue (!path.isEmpty) key value) path body

/-- Gives a table its header. One that a header below it implied may still get its own. -/
def openTable (key : String) : Body → Option Body
  | (origin, entries) =>
    match valueAt? key entries with
    | none => some (origin, entries ++ [(key, .table .header [])])
    | some (.table .implied found) =>
      some (origin, replaceEntry key (.table .header found) entries)
    | some _ => none

/-- Adds one more table to a list of tables. -/
def openItem (key : String) : Body → Option Body
  | (origin, entries) =>
    match valueAt? key entries with
    | none => some (origin, entries ++ [(key, .list true [.table .header []])])
    | some (.list true items) =>
      some (origin, replaceEntry key (.list true (items ++ [.table .header []])) entries)
    | some _ => none

end Toml

end Raid
