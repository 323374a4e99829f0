import Raid.Yaml.Token
import Raid.Document.Node

/-!
The nodes of a document: scalars, lists and maps, aliases resolved. Where a key or a value is left
out, an empty plain scalar stands for it.
-/

namespace Raid.Yaml

inductive Node where
  | scalar (tag : Option String) (form : ScalarForm) (text : String)
  | list (tag : Option String) (items : List Node)
  | map (tag : Option String) (entries : List (Node × Node))
  deriving Repr, Inhabited

namespace Node

def empty : Node := .scalar none .plain ""

def greatestDepth : Nat := 128

structure Reading where
  tokens : List Token
  anchors : List (String × Node) := []

namespace Reading

def drop (reading : Reading) : Reading := { reading with tokens := reading.tokens.drop 1 }

def next? (reading : Reading) : Option Token := reading.tokens.head?

def nextIn (reading : Reading) (expected : List Token) : Bool :=
  reading.next?.any expected.contains

def name (reading : Reading) (anchor : Option String) (node : Node) : Reading :=
  match anchor with
  | some anchor => { reading with anchors := (anchor, node) :: reading.anchors }
  | none => reading

end Reading

def properties (reading : Reading) : Option String × Option String × Reading :=
  match reading.tokens with
  | .anchor name :: .tag tag :: rest => (some name, some tag, { reading with tokens := rest })
  | .tag tag :: .anchor name :: rest => (some name, some tag, { reading with tokens := rest })
  | .anchor name :: rest => (some name, none, { reading with tokens := rest })
  | .tag tag :: rest => (none, some tag, { reading with tokens := rest })
  | _ => (none, none, reading)

mutual

/-- A node. `block` tells whether a block may begin here, `dashes` whether a list that is not
indented may. -/
def read (fuel depth : Nat) (block dashes : Bool) (reading : Reading) :
    Option (Node × Reading) :=
  match fuel with
  | 0 => none
  | fuel + 1 =>
    match reading.tokens with
    | .alias name :: rest =>
      (valueAt? name reading.anchors).map fun node => (node, { reading with tokens := rest })
    | _ =>
      let (anchor, tag, reading) := properties reading
      let named (read : Node × Reading) : Node × Reading := (read.1, read.2.name anchor read.1)
      let list (read : List Node × Reading) : Node × Reading := named (.list tag read.1, read.2)
      let map (read : List (Node × Node) × Reading) : Node × Reading :=
        named (.map tag read.1, read.2)
      match reading.next?, depth with
      | some .dash, depth + 1 =>
        if dashes then (dashItems fuel depth reading).map list
        else if anchor.isSome || tag.isSome then some (named (.scalar tag .plain "", reading))
        else none
      | some (.scalar form text), _ =>
        some (named (.scalar (tag.filter (· ≠ "!")) form text, reading.drop))
      | some .bracketOpen, depth + 1 => (flowItems fuel depth true reading.drop).map list
      | some .braceOpen, depth + 1 => (flowEntries fuel depth true reading.drop).map map
      | next, depth =>
        match depth, block && next = some .listStart, block && next = some .mapStart with
        | depth + 1, true, _ => (blockItems fuel depth reading.drop).map list
        | depth + 1, _, true => (blockEntries fuel depth reading.drop).map map
        | _, _, _ =>
          if anchor.isSome || tag.isSome then some (named (.scalar tag .plain "", reading))
          else none

def readUnless (fuel depth : Nat) (block dashes : Bool) (ends : List Token) (reading : Reading) :
    Option (Node × Reading) :=
  match fuel with
  | 0 => none
  | fuel + 1 =>
    if reading.nextIn ends then some (empty, reading) else read fuel depth block dashes reading

def blockItems (fuel depth : Nat) (reading : Reading) : Option (List Node × Reading) :=
  match fuel with
  | 0 => none
  | fuel + 1 =>
    match reading.next? with
    | some .blockEnd => some ([], reading.drop)
    | some .dash => do
      let (item, reading) ← readUnless fuel depth true false [.dash, .blockEnd] reading.drop
      let (items, reading) ← blockItems fuel depth reading
      some (item :: items, reading)
    | _ => none

def dashItems (fuel depth : Nat) (reading : Reading) : Option (List Node × Reading) :=
  match fuel with
  | 0 => none
  | fuel + 1 =>
    match reading.next? with
    | some .dash => do
      let ends := [.dash, .key, .value, .blockEnd]
      let (item, reading) ← readUnless fuel depth true false ends reading.drop
      let (items, reading) ← dashItems fuel depth reading
      some (item :: items, reading)
    | _ => some ([], reading)

def blockEntries (fuel depth : Nat) (reading : Reading) :
    Option (List (Node × Node) × Reading) :=
  match fuel with
  | 0 => none
  | fuel + 1 =>
    match reading.next? with
    | some .blockEnd => some ([], reading.drop)
    | some .key => do
      let ends := [.key, .value, .blockEnd]
      let (key, reading) ← readUnless fuel depth true true ends reading.drop
      let (value, reading) ←
        if reading.nextIn [.value] then readUnless fuel depth true true ends reading.drop
        else some (empty, reading)
      let (entries, reading) ← blockEntries fuel depth reading
      some ((key, value) :: entries, reading)
    | _ => none

/-- The items of a list up to its closing bracket. An item may be a single entry of a map. -/
def flowItems (fuel depth : Nat) (first : Bool) (reading : Reading) :
    Option (List Node × Reading) :=
  match fuel with
  | 0 => none
  | fuel + 1 =>
    if reading.nextIn [.bracketClose] then some ([], reading.drop)
    else if !first && !reading.nextIn [.comma] then none
    else
      let reading := if first then reading else reading.drop
      if reading.nextIn [.bracketClose] then some ([], reading.drop)
      else if reading.nextIn [.key] then
        match depth with
        | 0 => none
        | inner + 1 => do
          let ends := [.comma, .bracketClose]
          let (key, reading) ←
            if reading.drop.nextIn (.value :: ends) then some (empty, reading.drop)
            else read fuel inner false false reading.drop
          let (value, reading) ←
            if reading.nextIn [.value] then readUnless fuel inner false false ends reading.drop
            else some (empty, reading)
          let (items, reading) ← flowItems fuel depth false reading
          some (.map none [(key, value)] :: items, reading)
      else do
        let (item, reading) ← read fuel depth false false reading
        let (items, reading) ← flowItems fuel depth false reading
        some (item :: items, reading)

/-- The entries of a map up to its closing bracket. A key may stand without a value. -/
def flowEntries (fuel depth : Nat) (first : Bool) (reading : Reading) :
    Option (List (Node × Node) × Reading) :=
  match fuel with
  | 0 => none
  | fuel + 1 =>
    if reading.nextIn [.braceClose] then some ([], reading.drop)
    else if !first && !reading.nextIn [.comma] then none
    else
      let reading := if first then reading else reading.drop
      if reading.nextIn [.braceClose] then some ([], reading.drop)
      else do
        let ends := [.comma, .braceClose]
        let (key, reading) ←
          if reading.nextIn [.key] then
            readUnless fuel depth false false (.value :: ends) reading.drop
          else read fuel depth false false reading
        let (value, reading) ←
          if reading.nextIn [.value] then readUnless fuel depth false false ends reading.drop
          else some (empty, reading)
        let (entries, reading) ← flowEntries fuel depth false reading
        some ((key, value) :: entries, reading)

end

/-- The single document that the tokens hold. Nothing at all is an empty document. -/
def ofTokens? (tokens : List Token) : Option Node := do
  let fuel := 3 * tokens.length + 3
  let body := tokens.dropWhile (· = .version)
  match body with
  | [] => if tokens.isEmpty then some empty else none
  | first :: rest =>
    let marked := first = .documentStart
    if !marked && body.length < tokens.length then none
    else
      let reading : Reading := { tokens := if marked then rest else body }
      let (node, reading) ←
        if marked && (reading.tokens.isEmpty ||
            reading.nextIn [.version, .documentStart, .documentEnd]) then
          some (empty, reading)
        else read fuel greatestDepth true false reading
      if (reading.tokens.dropWhile (· = .documentEnd)).isEmpty then some node else none

def parse (text : String) : Option Node := (tokens? text).bind ofTokens?

def text? : Node → Option String
  | .scalar _ _ text => some text
  | _ => none

def flag? : Node → Option Bool
  | .scalar _ .plain text => flagWord? text
  | .scalar (some "tag:yaml.org,2002:bool") .literal text => flagWord? text
  | _ => none

def natural? : Node → Option Nat
  | .scalar _ .plain text => unsigned? text.toList
  | .scalar (some "tag:yaml.org,2002:int") .literal text => unsigned? text.toList
  | _ => none

def isNull : Node → Bool
  | .scalar none .plain text => text.isEmpty || isNullWord text
  | .scalar (some "tag:yaml.org,2002:null") .plain text => isNullWord text
  | _ => false

def word? : Node → Option String
  | .scalar (some tag) .plain text =>
    if tag.startsWith "!" then
      if text.isEmpty || isNullWord text then some (tag.drop 1).toString else none
    else some text
  | .scalar _ _ text => some text
  | _ => none

def items? : Node → Option (List Node)
  | .list _ items => some items
  | _ => none

/-- The entries of a map. An empty plain scalar has none. -/
def entries? : Node → Option (List (Node × Node))
  | .map _ entries => some entries
  | .scalar _ .plain "" => some []
  | _ => none

/-- The meaning of a plain scalar as a value. A whole number has to fit into 64 bits. -/
def meaningJson? (text : String) : Option Json :=
  match meaning text with
  | .null => some .null
  | .flag value => some (.flag value)
  | .whole value =>
    if -(Nat.pow 2 63 : Int) ≤ value ∧ value < Nat.pow 2 64 then some (.number (.whole value)) else none
  | .real value => some (.number (.real value))
  | .unbounded => some .null
  | .text => some (.text text)

/-- The value of a scalar whose tag names its kind. Local tags have no value. -/
def taggedJson? (tag text : String) : Option Json :=
  if tag.startsWith "!" then none
  else if tag = "tag:yaml.org,2002:bool" then (flagWord? text).map .flag
  else if tag = "tag:yaml.org,2002:null" then if isNullWord text then some .null else none
  else if tag = "tag:yaml.org,2002:int" then
    match whole? text.toList with
    | some _ => meaningJson? text
    | none => none
  else if tag = "tag:yaml.org,2002:float" then
    match real? text.toList with
    | some (.real value) => some (.number (.real value))
    | some _ => some .null
    | none => none
  else some (.text text)

def isLocal (tag : Option String) : Bool := tag.any (·.startsWith "!")

mutual

def json? : Node → Option Json
  | .scalar (some tag) _ text => taggedJson? tag text
  | .scalar none .plain text => meaningJson? text
  | .scalar none _ text => some (.text text)
  | .list tag items => if isLocal tag then none else (itemsJson? items).map .list
  | .map tag entries => if isLocal tag then none else (entriesJson? entries).map Json.ofMembers

def itemsJson? : List Node → Option (List Json)
  | [] => some []
  | item :: rest => do
    let item ← json? item
    let items ← itemsJson? rest
    some (item :: items)

def entriesJson? : List (Node × Node) → Option (List (String × Json))
  | [] => some []
  | (key, value) :: rest => do
    let key ← text? key
    let value ← json? value
    let entries ← entriesJson? rest
    some ((key, value) :: entries)

end

instance : DocumentNode Node where
  text? := text?
  flag? := flag?
  natural? := natural?
  isNull := isNull
  word? := word?
  json? := json?
  items? := items?
  entries? := entries?
  boundsItems := true

end Node

end Raid.Yaml
