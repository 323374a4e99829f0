import Raid.Json.Basic
import Raid.Text.Digits

/-!
Writing values as text: on one line, or spread over lines with two blanks for each level.
-/

namespace Raid

namespace Json

def escaped (c : Char) : List Char :=
  match c with
  | '"' => ['\\', '"']
  | '\\' => ['\\', '\\']
  | '\n' => ['\\', 'n']
  | '\r' => ['\\', 'r']
  | '\t' => ['\\', 't']
  | '\x08' => ['\\', 'b']
  | '\x0c' => ['\\', 'f']
  | c => if c.toNat < 32 then '\\' :: 'u' :: Text.hexText 4 c.toNat else [c]

def quoted (text : String) : String :=
  String.ofList ('"' :: text.toList.flatMap escaped ++ ['"'])

def numberText : Number → String
  | .whole value => toString value
  | .real value => value.toText

mutual

def compact : Json → String
  | .null => "null"
  | .flag value => if value then "true" else "false"
  | .number value => numberText value
  | .text value => quoted value
  | .list items => "[" ++ ",".intercalate (compactItems items) ++ "]"
  | .object members => "\x7b" ++ ",".intercalate (compactMembers members) ++ "\x7d"

def compactItems : List Json → List String
  | [] => []
  | item :: rest => compact item :: compactItems rest

def compactMembers : List (String × Json) → List String
  | [] => []
  | (key, value) :: rest => (quoted key ++ ":" ++ compact value) :: compactMembers rest

end

/-- The blanks at the front of a line at this level. -/
def indent (level : Nat) : String := String.ofList (List.replicate (2 * level) ' ')

/-- Lines between brackets, one level deeper than the brackets; nothing between them when there
are no lines. -/
def bracketed (opening closing : String) (level : Nat) (lines : List String) : String :=
  if lines.isEmpty then opening ++ closing
  else
    opening ++ "\n" ++ ",\n".intercalate (lines.map (indent (level + 1) ++ ·)) ++ "\n" ++
      indent level ++ closing

mutual

def prettyAt (level : Nat) : Json → String
  | .null => "null"
  | .flag value => if value then "true" else "false"
  | .number value => numberText value
  | .text value => quoted value
  | .list items => bracketed "[" "]" level (prettyItems level items)
  | .object members => bracketed "\x7b" "\x7d" level (prettyMembers level members)

def prettyItems (level : Nat) : List Json → List String
  | [] => []
  | item :: rest => prettyAt (level + 1) item :: prettyItems level rest

def prettyMembers (level : Nat) : List (String × Json) → List String
  | [] => []
  | (key, value) :: rest =>
    (quoted key ++ ": " ++ prettyAt (level + 1) value) :: prettyMembers level rest

end

def pretty (value : Json) : String := prettyAt 0 value

end Json

end Raid
