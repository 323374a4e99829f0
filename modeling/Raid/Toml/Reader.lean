import Raid.Toml.Basic
import Raid.Toml.Scalar

/-!
Reading tables of settings from text: headers, and below each header the values of its table.
-/

namespace Raid.Toml

def skipLines (inComment : Bool) : List Char → Option (List Char)
  | [] => some []
  | c :: rest =>
    if c = '\n' then skipLines false rest
    else if c = '\r' && startsBreak (c :: rest) then skipLines inComment rest
    else if inComment then if isControl c then none else skipLines true rest
    else if isBlank c then skipLines false rest
    else if c = '#' then skipLines true rest
    else some (c :: rest)

def endLine (input : List Char) : Option (List Char) :=
  let rest := input.dropWhile isBlank
  match rest with
  | [] => some []
  | c :: _ => if c = '#' || startsBreak rest then skipLines false rest else none

def isBareKeyChar (c : Char) : Bool := c.isAlphanum || c = '_' || c = '-'

def simpleKey (input : List Char) : Option (String × List Char) :=
  match input with
  | '"' :: rest => lineText '"' 0 [] rest
  | '\'' :: rest => lineText '\'' 0 [] rest
  | _ =>
    let key := input.takeWhile isBareKeyChar
    if key.isEmpty then none else some (String.ofList key, input.dropWhile isBareKeyChar)

def keys (fuel : Nat) (input : List Char) : Option (List String × List Char) :=
  match fuel with
  | 0 => none
  | fuel + 1 => do
    let (key, rest) ← simpleKey (input.dropWhile isBlank)
    match rest.dropWhile isBlank with
    | '.' :: rest =>
      let (others, rest) ← keys fuel rest
      some (key :: others, rest)
    | rest => some ([key], rest)

/-- Whether a value that is no text, list or table may go on with this character. -/
def isBareValueChar (c : Char) : Bool :=
  !(isBlank c || c = '\n' || c = '\r' || "#,=[]\x7b\x7d'\"".toList.contains c)

def bareValue (input : List Char) : Option (Toml × List Char) :=
  let word := input.takeWhile isBareValueChar
  let rest := input.dropWhile isBareValueChar
  let (word, rest) := match rest with
    | ' ' :: c :: after =>
      if c.isDigit ∧ date? word = some [] then
        let time := (c :: after).takeWhile isBareValueChar
        (word ++ ' ' :: time, (c :: after).drop time.length)
      else (word, rest)
    | _ => (word, rest)
  if word = "true".toList then some (.flag true, rest)
  else if word = "false".toList then some (.flag false, rest)
  else if isNumber word then some (.number, rest)
  else if isDate word then
    some (.date (String.ofList (word.map fun c => if c = ' ' || c = 't' then 'T' else c)), rest)
  else none

mutual

/-- A value. `depth` counts down with every level of nesting; `fuel` bounds the steps and is never
short when it is twice the length of the input. -/
def value (fuel depth : Nat) (input : List Char) : Option (Toml × List Char) :=
  match fuel with
  | 0 => none
  | fuel + 1 =>
    match quoted? input with
    | some read => read.map fun found => (.text found.1, found.2)
    | none =>
      match input, depth with
      | '[' :: rest, depth + 1 =>
        (items fuel depth rest).map fun found => (.list false found.1, found.2)
      | '\x7b' :: rest, depth + 1 =>
        (pairs fuel depth (.header, []) rest).map fun found =>
          (.table .braces found.1.2, found.2)
      | _, _ => bareValue input

/-- The items of a list up to its closing bracket, separated by commas, one more of which may end
the list. -/
def items (fuel depth : Nat) (input : List Char) : Option (List Toml × List Char) :=
  match fuel with
  | 0 => none
  | fuel + 1 => do
    match ← skipLines false input with
    | ']' :: rest => some ([], rest)
    | rest =>
      let (item, rest) ← value fuel depth rest
      match ← skipLines false rest with
      | ']' :: rest => some ([item], rest)
      | ',' :: rest =>
        let (others, rest) ← items fuel depth rest
        some (item :: others, rest)
      | _ => none

def pairs (fuel depth : Nat) (body : Body) (input : List Char) : Option (Body × List Char) :=
  match fuel with
  | 0 => none
  | fuel + 1 => do
    match ← skipLines false input with
    | '\x7d' :: rest => some (body, rest)
    | rest =>
      let (path, rest) ← keys (rest.length + 1) rest
      match rest with
      | '=' :: rest =>
        let (item, rest) ← value fuel depth (rest.dropWhile isBlank)
        let body ← addAt path.dropLast (path.getLastD "") item body
        match ← skipLines false rest with
        | '\x7d' :: rest => some (body, rest)
        | ',' :: rest => pairs fuel depth body rest
        | _ => none
      | _ => none

end

def greatestDepth : Nat := 80

def header (input : List Char) : Option (List String × List Char) := do
  let (path, rest) ← keys (input.length + 1) input
  match rest with
  | ']' :: rest => some (path, rest)
  | _ => none

/-- Reads lines up to the end of the text. `current` is the path of the table that values are
added to. -/
def lines (fuel : Nat) (current : List String) (body : Body) (input : List Char) : Option Body :=
  match fuel with
  | 0 => none
  | fuel + 1 => do
    match ← skipLines false input with
    | [] => some body
    | '[' :: '[' :: rest =>
      let (path, rest) ← header rest
      match rest with
      | ']' :: rest =>
        let body ← extend false (openItem (path.getLastD "")) path.dropLast body
        lines fuel path body (← endLine rest)
      | _ => none
    | '[' :: rest =>
      let (path, rest) ← header rest
      let body ← extend false (openTable (path.getLastD "")) path.dropLast body
      lines fuel path body (← endLine rest)
    | rest =>
      let (path, rest) ← keys (rest.length + 1) rest
      match rest with
      | '=' :: rest =>
        let input := rest.dropWhile isBlank
        let (item, rest) ← value (2 * input.length + 2) greatestDepth input
        let add := addAt path.dropLast (path.getLastD "") item
        let body ← extend false add current body
        lines fuel current body (← endLine rest)
      | _ => none

/-- Reads a whole text as one table. A mark of the byte order at its start is passed over. -/
def parse (text : String) : Option Toml := do
  let input := text.toList
  let input := if input.head? = some '\ufeff' then input.drop 1 else input
  let (origin, entries) ← lines (input.length + 1) [] (.header, []) input
  some (.table origin entries)

end Raid.Toml
