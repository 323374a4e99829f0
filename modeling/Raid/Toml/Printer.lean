import Raid.Text.Digits

/-!
Writing texts, keys and lists of settings. A text gets the plainest kind of quotes that can hold
it, so that as little as possible has to be escaped.
-/

namespace Raid.Toml

def longestRun (c : Char) (run longest : Nat) : List Char → Nat
  | [] => longest
  | d :: rest =>
    if d = c then longestRun c (run + 1) (max longest (run + 1)) rest
    else longestRun c 0 longest rest

/-- Characters that can only be written as escapes, whatever the quotes. -/
def needsEscape (c : Char) : Bool := (c.toNat < 32 && c ≠ '\t' && c ≠ '\n') || c.toNat = 127

/-- What matters about a text for the choice of its quotes. -/
structure Contents where
  escapes : Bool
  backslash : Bool
  lineBreak : Bool
  /-- The longest runs of either kind of quote. -/
  single : Nat
  double : Nat

def contents (text : List Char) : Contents :=
  { escapes := text.any needsEscape
    backslash := text.contains '\\'
    lineBreak := text.contains '\n'
    single := longestRun '\'' 0 0 text
    double := longestRun '"' 0 0 text }

inductive Quoting where
  | basic
  | literal
  | basicLines
  | literalLines
  deriving Repr, DecidableEq

def quoting (found : Contents) : Quoting :=
  let free := !found.escapes
  if free && !found.backslash && found.double = 0 && !found.lineBreak then .basic
  else if free && found.single = 0 && !found.lineBreak then .literal
  else if free && !found.backslash && found.double ≤ 2 then .basicLines
  else if free && found.single ≤ 2 then .literalLines
  else if found.lineBreak then .basicLines
  else .basic

def escaped (c : Char) : List Char :=
  match c with
  | '\x08' => ['\\', 'b']
  | '\t' => ['\\', 't']
  | '\x0c' => ['\\', 'f']
  | '\r' => ['\\', 'r']
  | '\\' => ['\\', '\\']
  | c => if needsEscape c then '\\' :: 'u' :: Text.upperHex 4 c.toNat else [c]

/-- A text between double quotes, of which `most` may stand side by side as they are. -/
def escapedText (most : Nat) (lines : Bool) (run : Nat) : List Char → List Char
  | [] => []
  | c :: rest =>
    if c = '"' then
      if run < most then '"' :: escapedText most lines (run + 1) rest
      else '\\' :: '"' :: escapedText most lines 0 rest
    else if c = '\n' then
      (if lines then ['\n'] else ['\\', 'n']) ++ escapedText most lines 0 rest
    else escaped c ++ escapedText most lines 0 rest

def between (quotes : List Char) (lineBreak : Bool) (text : List Char) : List Char :=
  quotes ++ (if lineBreak then ['\n'] else []) ++ text ++ quotes

def textValue (text : String) : String :=
  let cs := text.toList
  let found := contents cs
  String.ofList <|
    match quoting found with
    | .basic => between ['"'] false (escapedText 0 false 0 cs)
    | .literal => between ['\''] false cs
    | .basicLines => between ['"', '"', '"'] found.lineBreak (escapedText 2 true 0 cs)
    | .literalLines => between ['\'', '\'', '\''] found.lineBreak cs

def flagValue (value : Bool) : String := if value then "true" else "false"

/-- A list of texts: one item on one line, several on a line each. -/
def listValue : List String → String
  | [] => "[]"
  | [item] => "[" ++ textValue item ++ "]"
  | items =>
    "[\n" ++ String.join (items.map fun item => "    " ++ textValue item ++ ",\n") ++ "]"

def isBareKey (key : List Char) : Bool :=
  !key.isEmpty && key.all fun c => c.isAlphanum || c = '_' || c = '-'

/-- A key, in quotes unless it consists of letters, digits, underscores and dashes. -/
def keyText (key : String) : String :=
  let cs := key.toList
  let found := contents cs
  let free := !found.escapes && !found.lineBreak
  if isBareKey cs then key
  else if !(free && !found.backslash && found.double = 0) && free && found.single = 0 then
    String.ofList (between ['\''] false cs)
  else String.ofList (between ['"'] false (escapedText 0 false 0 cs))

def valueLine (key value : String) : String := keyText key ++ " = " ++ value ++ "\n"

def headerLine (path : List String) : String := "[" ++ ".".intercalate (path.map keyText) ++ "]\n"

end Raid.Toml
