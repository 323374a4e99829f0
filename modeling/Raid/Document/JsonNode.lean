import Raid.Document.Node

/-!
Values of free form as nodes of a document.
-/

namespace Raid.Json

/-- A text, or an object whose only member is a null under the name. -/
def word? : Json → Option String
  | .text value => some value
  | .object [(key, .null)] => some key
  | _ => none

def natural? : Json → Option Nat
  | .number (.whole value) => if 0 ≤ value then some value.toNat else none
  | _ => none

def flag? : Json → Option Bool
  | .flag value => some value
  | _ => none

def items? : Json → Option (List Json)
  | .list items => some items
  | _ => none

def entries? : Json → Option (List (Json × Json))
  | .object members => some (members.map fun member => (.text member.1, member.2))
  | _ => none

instance : DocumentNode Json where
  text? := text?
  flag? := flag?
  natural? := natural?
  isNull := isNull
  word? := word?
  json? value := some value.normal
  items? := items?
  entries? := entries?
  boundsItems := true

end Raid.Json
