import Raid.Yaml.Plain
import Raid.Json.Printer

/-!
Writing values as block-style documents: one entry a line, two blanks a level, lists below a key
not indented. Each scalar gets the plainest style that reads back as the same text.
-/

namespace Raid.Yaml

open Text (upperHex)

/-- Line breaks: the two ends of a line, and the separators beyond ASCII. -/
def isBreak (c : Char) : Bool :=
  c = '\n' || c = '\r' || c.toNat = 0x85 || c.toNat = 0x2028 || c.toNat = 0x2029

def isBlankOrBreak (c : Char) : Bool := c = ' ' || c = '\t' || isBreak c

def isPrintable (c : Char) : Bool :=
  let n := c.toNat
  n = 0x0A || (0x20 ≤ n && n ≤ 0x7E) || (0xA0 ≤ n && n ≠ 0xFEFF && n ≠ 0xFFFE && n ≠ 0xFFFF)

structure Traits where
  /-- An indicator that only counts as such outside of brackets. -/
  blockIndicator : Bool := false
  multiline : Bool := false
  special : Bool := false
  leadingSpace : Bool := false
  trailingSpace : Bool := false
  leadingBreak : Bool := false
  trailingBreak : Bool := false
  /-- A blank right after a line break. -/
  breakSpace : Bool := false
  /-- A line break right after a blank. -/
  spaceBreak : Bool := false
  deriving Repr

def isOpeningIndicator (c : Char) : Bool :=
  "#,[]\x7b\x7d&*!|>'\"%@".toList.contains c || c.toNat = 0x60

def indicates (first : Bool) (before after : Option Char) (c : Char) : Bool :=
  let followed := after.all isBlankOrBreak
  if first then
    isOpeningIndicator c || ((c = '?' || c = ':' || c = '-') && followed)
  else
    (c = ':' && followed) || (c = '#' && before.all isBlankOrBreak)

def traitsFrom (first : Bool) (before : Option Char) (traits : Traits) : List Char → Traits
  | [] => traits
  | c :: rest =>
    let last := rest.isEmpty
    let space := c = ' '
    let lineBreak := isBreak c
    let next : Traits :=
      { blockIndicator := traits.blockIndicator || indicates first before rest.head? c
        multiline := traits.multiline || lineBreak
        special := traits.special || !isPrintable c
        leadingSpace := traits.leadingSpace || (first && space)
        trailingSpace := traits.trailingSpace || (last && space)
        leadingBreak := traits.leadingBreak || (first && lineBreak)
        trailingBreak := traits.trailingBreak || (last && lineBreak)
        breakSpace := traits.breakSpace || (space && before.any isBreak)
        spaceBreak := traits.spaceBreak || (lineBreak && before = some ' ') }
    traitsFrom false (some c) next rest

def traits (text : List Char) : Traits :=
  let marker := text.take 3 = ['-', '-', '-'] || text.take 3 = ['.', '.', '.']
  traitsFrom true none { blockIndicator := marker } text

inductive Style where
  | plain
  | single
  | double
  | literal
  deriving Repr, DecidableEq

/-- The style that is asked for: literal for text with line feeds, quotes for text that would be
taken for something else. -/
def wantedStyle (text : String) : Style :=
  if text.toList.contains '\n' then .literal
  else
    match meaning text with
    | .text => if isPaddedDigits text.toList then .single else .plain
    | _ => .single

def style (text : String) : Style :=
  let found := traits text.toList
  let quotable := !(found.breakSpace || found.spaceBreak || found.special)
  let quotes : Style := if quotable then .single else .double
  match wantedStyle text with
  | .literal =>
    if found.trailingSpace || found.spaceBreak || found.special then .double else .literal
  | .plain =>
    if found.leadingSpace || found.leadingBreak || found.trailingSpace || found.trailingBreak ||
        found.breakSpace || found.spaceBreak || found.special || found.multiline ||
        found.blockIndicator then quotes
    else .plain
  | _ => quotes

def blanks (count : Nat) : List Char := List.replicate count ' '

/-- Text between single quotes. A quote is doubled, and after a line break the text goes on at the
indentation. -/
def singleQuoted (indent : Nat) (afterBreak : Bool) : List Char → List Char
  | [] => if afterBreak then blanks indent else []
  | c :: rest =>
    if isBreak c then c :: singleQuoted indent true rest
    else if c = ' ' then c :: singleQuoted indent afterBreak rest
    else
      (if afterBreak then blanks indent else []) ++
        (if c = '\'' then ['\'', '\''] else [c]) ++ singleQuoted indent false rest

def escaped (c : Char) : List Char :=
  if isPrintable c && !isBreak c && c ≠ '"' && c ≠ '\\' then [c]
  else
    match c.toNat with
    | 0 => ['\\', '0']
    | 7 => ['\\', 'a']
    | 8 => ['\\', 'b']
    | 9 => ['\\', 't']
    | 10 => ['\\', 'n']
    | 11 => ['\\', 'v']
    | 12 => ['\\', 'f']
    | 13 => ['\\', 'r']
    | 0x1B => ['\\', 'e']
    | 0x22 => ['\\', '"']
    | 0x5C => ['\\', '\\']
    | 0x85 => ['\\', 'N']
    | 0xA0 => ['\\', '_']
    | 0x2028 => ['\\', 'L']
    | 0x2029 => ['\\', 'P']
    | n =>
      if n ≤ 0xFF then '\\' :: 'x' :: upperHex 2 n
      else if n ≤ 0xFFFF then '\\' :: 'u' :: upperHex 4 n
      else '\\' :: 'U' :: upperHex 8 n

/-- Whether a literal text keeps all its line breaks at the end: it has more than one, or nothing
before it. -/
def keepsBreaks (text : List Char) : Bool :=
  match text.reverse with
  | [] => false
  | [last] => isBreak last
  | last :: before :: _ => isBreak last && isBreak before

/-- The marks after the bar of a literal text: its indentation if that cannot be seen from its
first line, and what becomes of the line breaks at its end. -/
def literalMarks (text : List Char) : List Char :=
  let indentation := match text with
    | c :: _ => if c = ' ' || isBreak c then ['2'] else []
    | [] => []
  let chomping :=
    if keepsBreaks text then ['+']
    else if (text.getLast?.any isBreak) then []
    else ['-']
  indentation ++ chomping

def literalLines (indent : Nat) (afterBreak : Bool) : List Char → List Char
  | [] => []
  | c :: rest =>
    if isBreak c then c :: literalLines indent true rest
    else (if afterBreak then blanks indent else []) ++ c :: literalLines indent false rest

/-- A scalar with the line break that ends it. `indent` is where its further lines begin. -/
def scalarLine (indent : Nat) (text : String) : String :=
  match style text with
  | .plain => text ++ "\n"
  | .single =>
    String.ofList ('\'' :: singleQuoted indent false text.toList ++ ['\'', '\n'])
  | .double => String.ofList ('"' :: text.toList.flatMap escaped ++ ['"', '\n'])
  | .literal =>
    let body := literalLines indent true text.toList
    let ending := if text.toList.getLast?.any isBreak then [] else ['\n']
    String.ofList ('|' :: literalMarks text.toList ++ '\n' :: body ++ ending)

/-- Whether a key fits on the line of its value: one line and at most 128 bytes. -/
def isShortKey (key : String) : Bool :=
  !(key.toList.any isBreak) && key.utf8ByteSize ≤ 128

def margin (indent : Nat) : String := String.ofList (blanks indent)

def keyText (key : String) : String := (scalarLine 0 key).dropEnd 1 |>.toString

mutual

/-- A value after a dash, a question mark or a colon of its own line, or at the start: what does
not fit on that line is indented by `indent`. -/
def inline (indent : Nat) : Json → String
  | .null => "null\n"
  | .flag value => if value then "true\n" else "false\n"
  | .number value => Json.numberText value ++ "\n"
  | .text value => scalarLine indent value
  | .list [] => "[]\n"
  | .list items => itemLines indent true items
  | .object [] => "\x7b\x7d\n"
  | .object members => memberLines indent true members

/-- A value after a short key whose own indentation is `indent`. -/
def afterKey (indent : Nat) : Json → String
  | .null => " null\n"
  | .flag value => if value then " true\n" else " false\n"
  | .number value => " " ++ Json.numberText value ++ "\n"
  | .text value => " " ++ scalarLine (indent + 2) value
  | .list [] => " []\n"
  | .list items => "\n" ++ itemLines indent false items
  | .object [] => " \x7b\x7d\n"
  | .object members => "\n" ++ memberLines (indent + 2) false members

/-- The items of a list, a dash each. The first one may stand on a line that has begun. -/
def itemLines (indent : Nat) (begun : Bool) : List Json → String
  | [] => ""
  | item :: rest =>
    (if begun then "" else margin indent) ++ "- " ++ inline (indent + 2) item ++
      itemLines indent false rest

/-- The members of an object. A key that does not fit on the line of its value stands after a
question mark. -/
def memberLines (indent : Nat) (begun : Bool) : List (String × Json) → String
  | [] => ""
  | (key, value) :: rest =>
    (if begun then "" else margin indent) ++
      (if isShortKey key then keyText key ++ ":" ++ afterKey indent value
      else
        "? " ++ scalarLine (indent + 2) key ++ margin indent ++ ": " ++
          inline (indent + 2) value) ++
      memberLines indent false rest

end

mutual

def texts : Json → List String
  | .text value => [value]
  | .list items => itemTexts items
  | .object members => memberTexts members
  | _ => []

def itemTexts : List Json → List String
  | [] => []
  | item :: rest => texts item ++ itemTexts rest

def memberTexts : List (String × Json) → List String
  | [] => []
  | (key, value) :: rest => key :: texts value ++ memberTexts rest

end

/-- Whether the last literal text keeps its line breaks, so that the end of the document has to be
marked. -/
def endsOpen (value : Json) : Bool :=
  match ((texts value).filter fun text => style text = .literal).getLast? with
  | some text => keepsBreaks text.toList
  | none => false

def print (value : Json) : String :=
  inline 0 value ++ if endsOpen value then "...\n" else ""

end Raid.Yaml
