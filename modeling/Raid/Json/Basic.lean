import Raid.Dict
import Raid.Number.Shortest

/-!
Values of free form: what a change is applied with, what it returns, and what a movement reports.
-/

namespace Raid

/-- A number as it is written: whole, or with a point or an exponent. -/
inductive Number where
  | whole (value : Int)
  | real (value : Binary64)
  deriving Repr, DecidableEq

/-- A value of free form. The members of an object stand in the order in which they are written;
`Json.normal` sorts them. -/
inductive Json where
  | null
  | flag (value : Bool)
  | number (value : Number)
  | text (value : String)
  | list (items : List Json)
  | object (members : List (String × Json))
  deriving Repr, Inhabited

namespace Json

def int (value : Int) : Json := .number (.whole value)

def nat (value : Nat) : Json := int value

/-- An object from its members, sorted by key; of two members with one key the later counts. -/
def ofMembers (members : List (String × Json)) : Json := .object (Dict.ofList members).entries

def isNull : Json → Bool
  | .null => true
  | _ => false

def member? (key : String) : Json → Option Json
  | .object members => valueAt? key members
  | _ => none

def text? : Json → Option String
  | .text value => some value
  | _ => none

mutual

/-- The value with the members of every object sorted by key and each key once. -/
def normal : Json → Json
  | .list items => .list (normalList items)
  | .object members => ofMembers (normalMembers members)
  | value => value

def normalList : List Json → List Json
  | [] => []
  | item :: rest => normal item :: normalList rest

def normalMembers : List (String × Json) → List (String × Json)
  | [] => []
  | (key, value) :: rest => (key, normal value) :: normalMembers rest

end

mutual

def same : Json → Json → Bool
  | .null, .null => true
  | .flag a, .flag b => a == b
  | .number a, .number b => a == b
  | .text a, .text b => a == b
  | .list a, .list b => sameList a b
  | .object a, .object b => sameMembers a b
  | _, _ => false

def sameList : List Json → List Json → Bool
  | [], [] => true
  | a :: rest, b :: others => same a b && sameList rest others
  | _, _ => false

def sameMembers : List (String × Json) → List (String × Json) → Bool
  | [], [] => true
  | (k, a) :: rest, (l, b) :: others => k == l && same a b && sameMembers rest others
  | _, _ => false

end

instance : BEq Json := ⟨same⟩

end Json

end Raid
