import Raid.Json.Basic

/-!
Documents of any notation, seen through the questions that a reader of records asks of them.
-/

namespace Raid

/-- The answers that a node of a document gives to a reader that expects a certain kind of value.
No answer means that the node is not of that kind. -/
class DocumentNode (ν : Type) where
  text? : ν → Option String
  flag? : ν → Option Bool
  /-- A whole number from zero on. -/
  natural? : ν → Option Nat
  isNull : ν → Bool
  /-- The name of one case among several. -/
  word? : ν → Option String
  /-- The node as a value of free form. -/
  json? : ν → Option Json
  items? : ν → Option (List ν)
  entries? : ν → Option (List (ν × ν))
  /-- Whether a record given by position may not have more items than fields. -/
  boundsItems : Bool

namespace Document

variable {ν : Type} [DocumentNode ν]

/-- The fields of a record as they were found, in the order of their names. -/
structure Fields (ν : Type) where
  /-- Given as a list, without names. -/
  positional : Bool
  found : List (String × ν)

/-- The fields that a list of entries gives. A key that is no text is refused, and so is a field
that is given twice; fields of other names are passed over. -/
def namedFields (names : List String) : List (ν × ν) → Option (List (String × ν))
  | [] => some []
  | (key, value) :: rest => do
    let name ← DocumentNode.text? key
    let others ← namedFields names rest
    if name ∈ names then
      if (valueAt? name others).isSome then none else some ((name, value) :: others)
    else some others

def fields (names : List String) (node : ν) : Option (Fields ν) :=
  match DocumentNode.entries? node with
  | some entries => (namedFields names entries).map (Fields.mk false)
  | none =>
    match DocumentNode.items? node with
    | some items =>
      if DocumentNode.boundsItems ν && names.length < items.length then none
      else some ⟨true, names.zip items⟩
    | none => none

namespace Fields

def get? (fields : Fields ν) (name : String) : Option ν := valueAt? name fields.found

variable {α : Type}

def required (fields : Fields ν) (name : String) (read : ν → Option α) : Option α :=
  (fields.get? name).bind read

def defaulted (fields : Fields ν) (name : String) (value : α) (read : ν → Option α) : Option α :=
  match fields.get? name with
  | some node => read node
  | none => some value

/-- A field that may be null, and may be missing unless the fields are given by position. -/
def optional (fields : Fields ν) (name : String) (read : ν → Option α) : Option (Option α) :=
  match fields.get? name with
  | some node => if DocumentNode.isNull node then some none else (read node).map some
  | none => if fields.positional then none else some none

/-- A field that may be null or missing. -/
def nullable (fields : Fields ν) (name : String) (read : ν → Option α) : Option (Option α) :=
  match fields.get? name with
  | some node => if DocumentNode.isNull node then some none else (read node).map some
  | none => some none

end Fields

/-- Reads every entry of a dictionary. Of two entries with one key the later counts. -/
def dictEntries {α : Type} (read : ν → Option α) : List (ν × ν) → Option (List (String × α))
  | [] => some []
  | (key, value) :: rest => do
    let name ← DocumentNode.text? key
    let value ← read value
    let others ← dictEntries read rest
    some ((name, value) :: others)

def dict {α : Type} (read : ν → Option α) (node : ν) : Option (Dict α) := do
  let entries ← DocumentNode.entries? node
  let read ← dictEntries read entries
  some (Dict.ofList read)

def list {α : Type} (read : ν → Option α) (node : ν) : Option (List α) := do
  let items ← DocumentNode.items? node
  items.mapM read

end Document

end Raid
