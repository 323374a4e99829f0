import Raid.World
import Raid.Json.Printer

/-!
Fresh identifiers of 128 bits, written in groups.
-/

namespace Raid

/-- The text of an identifier. The bits that say how it was made are those of a random one. -/
def identifierText (number : Nat) : String :=
  let digits := Text.hexText 32 (number % Nat.pow 2 122)
  let hex (first count : Nat) : List Char := (digits.drop first).take count
  String.ofList (hex 2 8 ++ '-' :: hex 10 4 ++ '-' :: '4' :: hex 14 3 ++ '-' :: 'a' :: hex 17 3 ++
    '-' :: hex 20 12)

/-- An identifier that was not taken before. -/
def freshIdentifier : Task String := fun world =>
  (.done (identifierText (world.identifierSeed + world.identifiersTaken)),
    { world with identifiersTaken := world.identifiersTaken + 1 })

end Raid
