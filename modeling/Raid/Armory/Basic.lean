import Raid.Strike.Basic

/-!
Armories: tactics by name, each with its strikes in the order in which they run.
-/

namespace Raid

structure Armory where
  tactics : Dict (List Strike) := {}
  deriving Repr

namespace Armory

/-- Registers the strikes of a tactic. An earlier registration of the name gives way. -/
def add (armory : Armory) (name : String) (strikes : List Strike) : Armory :=
  ⟨armory.tactics.insert name strikes⟩

def strikes? (armory : Armory) (name : String) : Option (List Strike) := armory.tactics.get? name

def contains (armory : Armory) (name : String) : Bool := armory.tactics.contains name

def names (armory : Armory) : List String := armory.tactics.keys

def ofList (tactics : List (String × List Strike)) : Armory := ⟨Dict.ofList tactics⟩

theorem mem_of_strikes?_ofList {tactics : List (String × List Strike)} {name : String}
    {strikes : List Strike} (known : (ofList tactics).strikes? name = some strikes) :
    (name, strikes) ∈ tactics :=
  Dict.mem_of_get?_ofList known

def targetPresent : Strike := ⟨"target_present", .directory .present⟩

def targetListable : Strike := ⟨"target_listable", .directory .listable⟩

def canaryWrite : Strike := ⟨"canary_write", .directory .canaryWrite⟩

def canaryPermissions : Strike := ⟨"canary_permissions", .directory .permissions⟩

def directory : Armory :=
  ofList [("baseline", [targetPresent, targetListable]),
    ("invasive", [targetPresent, canaryWrite, canaryPermissions])]

end Armory

end Raid
