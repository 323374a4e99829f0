import Raid.Yaml.Scalar

/-!
The tokens of a document. Indentation becomes tokens that open and close blocks. Whether a scalar
is a key is only known when a colon follows it, so the places where a key may have begun are
remembered, and the key's token is put in when the colon comes.
-/

namespace Raid.Yaml

inductive ScalarForm where
  | plain
  | literal
  | other
  deriving Repr, DecidableEq

inductive Token where
  | version
  | documentStart
  | documentEnd
  | listStart
  | mapStart
  | blockEnd
  | bracketOpen
  | bracketClose
  | braceOpen
  | braceClose
  | dash
  | comma
  | key
  | value
  | alias (name : String)
  | anchor (name : String)
  | tag (name : String)
  | scalar (form : ScalarForm) (text : String)
  deriving Repr, DecidableEq

structure Cursor where
  rest : List Char
  column : Nat := 0
  line : Nat := 0
  /-- The number of characters before it. -/
  index : Nat := 0

namespace Cursor

def next (cursor : Cursor) : Cursor :=
  match cursor.rest with
  | [] => cursor
  | c :: rest =>
    if isBreak c && !isHalfBreak c rest then
      { rest, column := 0, line := cursor.line + 1, index := cursor.index + 1 }
    else { cursor with rest, column := cursor.column + 1, index := cursor.index + 1 }

def skip (cursor : Cursor) : Nat → Cursor
  | 0 => cursor
  | count + 1 => cursor.next.skip count

def upTo (cursor : Cursor) (rest : List Char) : Cursor :=
  cursor.skip (cursor.rest.length - rest.length)

/-- Passes over blanks, comments and line breaks; a tab only where it cannot be taken for
indentation. The second component tells whether a line ended. -/
def skipGap (tabs flow broken : Bool) (cursor : Cursor) : List Char → Cursor × Bool
  | [] => (cursor, broken)
  | c :: rest =>
    if c = ' ' || (c = '\t' && tabs) then skipGap tabs flow broken cursor.next rest
    else if isBreak c then skipGap (tabs && flow) flow true cursor.next rest
    else (cursor, broken)

def skipComment (cursor : Cursor) : Cursor :=
  if cursor.rest.head? = some '#' then
    cursor.upTo (cursor.rest.dropWhile fun c => !isBreak c)
  else cursor

end Cursor

structure KeyPlace where
  /-- The number of tokens before it. -/
  number : Nat
  column : Nat
  line : Nat
  index : Nat
  /-- Whether nothing but a key can stand there. -/
  required : Bool

structure Lexer where
  cursor : Cursor
  /-- The tokens so far, the last one first. -/
  tokens : List Token := []
  /-- The column of the innermost open block, counted from one; zero when none is open. -/
  indent : Nat := 0
  /-- The columns of the blocks around it. -/
  outer : List Nat := []
  /-- Whether a key may begin here. -/
  keyAllowed : Bool := true
  /-- The place where a key may have begun, in the innermost brackets. -/
  place : Option KeyPlace := none
  /-- The same for each of the brackets around it, the innermost first. -/
  outerPlaces : List (Option KeyPlace) := []

namespace Lexer

def inFlow (lexer : Lexer) : Bool := !lexer.outerPlaces.isEmpty

def push (lexer : Lexer) (token : Token) : Lexer :=
  { lexer with tokens := token :: lexer.tokens }

def insert (lexer : Lexer) (number : Nat) (token : Token) : Lexer :=
  let after := lexer.tokens.length - number
  { lexer with tokens := lexer.tokens.take after ++ token :: lexer.tokens.drop after }

def dropPlace (lexer : Lexer) : Option Lexer :=
  if lexer.place.any (·.required) then none else some { lexer with place := none }

def markPlace (lexer : Lexer) : Option Lexer :=
  if lexer.keyAllowed then do
    let lexer ← lexer.dropPlace
    let place : KeyPlace :=
      { number := lexer.tokens.length
        column := lexer.cursor.column
        line := lexer.cursor.line
        index := lexer.cursor.index
        required := !lexer.inFlow && lexer.indent = lexer.cursor.column + 1 }
    some { lexer with place := some place }
  else some lexer

/-- A key has to end on the line on which it begins, and within this many characters. -/
def longestKey : Nat := 1024

def refreshPlace (cursor : Cursor) (place : Option KeyPlace) : Option (Option KeyPlace) :=
  match place with
  | none => some none
  | some place =>
    if place.line < cursor.line ∨ place.index + longestKey < cursor.index then
      if place.required then none else some none
    else some (some place)

def refreshPlaces (lexer : Lexer) : Option Lexer := do
  let place ← refreshPlace lexer.cursor lexer.place
  let outerPlaces ← lexer.outerPlaces.mapM (refreshPlace lexer.cursor)
  some { lexer with place, outerPlaces }

/-- Opens a block at a column if it lies right of the innermost one. -/
def openBlock (lexer : Lexer) (column number : Nat) (token : Token) : Lexer :=
  if lexer.inFlow || column + 1 ≤ lexer.indent then lexer
  else
    { lexer.insert number token with
      indent := column + 1
      outer := lexer.indent :: lexer.outer }

/-- Closes the blocks whose columns, counted from one, lie right of `column`. -/
def closeBlocks (column : Nat) (indent : Nat) (tokens : List Token) :
    List Nat → Nat × List Nat × List Token
  | [] => (indent, [], tokens)
  | next :: outer =>
    if column < indent then closeBlocks column next (.blockEnd :: tokens) outer
    else (indent, next :: outer, tokens)

def close (lexer : Lexer) (column : Nat) : Lexer :=
  if lexer.inFlow then lexer
  else
    let (indent, outer, tokens) := closeBlocks column lexer.indent lexer.tokens lexer.outer
    { lexer with indent, outer, tokens }

def closeAll (lexer : Lexer) : Option Lexer := do
  let lexer ← (lexer.close 0).dropPlace
  some { lexer with keyAllowed := false }

def skip (lexer : Lexer) (count : Nat) : Lexer :=
  { lexer with cursor := lexer.cursor.skip count }

def upTo (lexer : Lexer) (rest : List Char) : Lexer :=
  { lexer with cursor := lexer.cursor.upTo rest }

/-- Passes over blanks, comments and line breaks. A new line may begin with a key, except in
brackets. -/
def skipGaps (fuel : Nat) (lexer : Lexer) : Lexer :=
  match fuel with
  | 0 => lexer
  | fuel + 1 =>
    let tabs := lexer.inFlow || !lexer.keyAllowed
    let (cursor, broken) := lexer.cursor.skipGap tabs lexer.inFlow false lexer.cursor.rest
    let lexer :=
      { lexer with cursor, keyAllowed := lexer.keyAllowed || (broken && !lexer.inFlow) }
    if lexer.cursor.rest.head? = some '#' then
      skipGaps fuel { lexer with cursor := lexer.cursor.skipComment }
    else lexer

def isNameChar (c : Char) : Bool := c.isAlphanum || c = '_' || c = '-'

def name? (input : List Char) : Option (String × List Char) :=
  let name := input.takeWhile isNameChar
  let rest := input.dropWhile isNameChar
  let ended :=
    isOpenEnd rest || rest.head?.any fun c => "?:,]\x7d%@".toList.contains c || c.toNat = 0x60
  if !name.isEmpty && ended then some (String.ofList name, rest) else none

def isTagChar (c : Char) : Bool :=
  isNameChar c || ";/?:@&=+$.!~*'()".toList.contains c

def tagName? (handle : List Char) (suffix : List Char) : Option String :=
  if handle = ['!'] then some (String.ofList ('!' :: suffix))
  else if handle = ['!', '!'] then
    if suffix.isEmpty then none else some ("tag:yaml.org,2002:" ++ String.ofList suffix)
  else none

def tag? (input : List Char) : Option (String × List Char) :=
  match input with
  | '<' :: rest =>
    let isLong (c : Char) : Bool := isTagChar c || c = ',' || c = '[' || c = ']'
    let name := rest.takeWhile isLong
    match rest.dropWhile isLong with
    | '>' :: after => if name.isEmpty then none else some (String.ofList name, after)
    | _ => none
  | _ =>
    let front := input.takeWhile isNameChar
    let rest := input.dropWhile isNameChar
    match rest with
    | '!' :: after =>
      (tagName? ('!' :: front ++ ['!']) (after.takeWhile isTagChar)).map fun name =>
        (name, after.dropWhile isTagChar)
    | _ =>
      (tagName? ['!'] (input.takeWhile isTagChar)).map fun name =>
        (name, input.dropWhile isTagChar)

def version? (input : List Char) : Option (List Char) := do
  let rest ← Json.Reader.word "%YAML".toList input
  let number := rest.dropWhile isBlank
  if number.length = rest.length then none
  else
    let rest ← (Json.Reader.word "1.1".toList number).or (Json.Reader.word "1.2".toList number)
    if isOpenEnd rest then lineRest? rest else none

def keyStart (lexer : Lexer) : Option Lexer := do
  let lexer ← lexer.markPlace
  some { lexer with keyAllowed := false }

def openBracket (lexer : Lexer) (token : Token) : Option Lexer := do
  let lexer ← lexer.markPlace
  let lexer :=
    { lexer with
      place := none
      outerPlaces := lexer.place :: lexer.outerPlaces
      keyAllowed := true }
  some ((lexer.skip 1).push token)

def closeBracket (lexer : Lexer) (token : Token) : Option Lexer := do
  let lexer ← lexer.dropPlace
  let lexer := match lexer.outerPlaces with
    | place :: outerPlaces => { lexer with place, outerPlaces }
    | [] => lexer
  some (({ lexer with keyAllowed := false }.skip 1).push token)

def comma (lexer : Lexer) : Option Lexer := do
  let lexer ← lexer.dropPlace
  some (({ lexer with keyAllowed := true }.skip 1).push .comma)

def dash (lexer : Lexer) : Option Lexer :=
  if !lexer.inFlow && !lexer.keyAllowed then none
  else do
    let lexer := lexer.openBlock lexer.cursor.column lexer.tokens.length .listStart
    let lexer ← lexer.dropPlace
    some (({ lexer with keyAllowed := true }.skip 1).push .dash)

def questionMark (lexer : Lexer) : Option Lexer :=
  if !lexer.inFlow && !lexer.keyAllowed then none
  else do
    let lexer := lexer.openBlock lexer.cursor.column lexer.tokens.length .mapStart
    let lexer ← lexer.dropPlace
    some (({ lexer with keyAllowed := !lexer.inFlow }.skip 1).push .key)

def colon (lexer : Lexer) : Option Lexer :=
  match lexer.place with
  | some place =>
    let lexer := (lexer.insert place.number .key).openBlock place.column place.number .mapStart
    some (({ lexer with place := none, keyAllowed := false }.skip 1).push .value)
  | none =>
    if !lexer.inFlow && !lexer.keyAllowed then none
    else
      let lexer := lexer.openBlock lexer.cursor.column lexer.tokens.length .mapStart
      some (({ lexer with keyAllowed := !lexer.inFlow }.skip 1).push .value)

def quoted (lexer : Lexer) (quote : Char) : Option Lexer := do
  let lexer ← lexer.keyStart
  let (text, rest) ←
    quotedScalar quote 0 (lexer.cursor.column + 1) .nothing [] (lexer.cursor.rest.drop 1)
  some ((lexer.upTo rest).push (.scalar .other text))

def block (lexer : Lexer) (folded : Bool) : Option Lexer := do
  let lexer ← lexer.dropPlace
  let header ← blockHeader? (lexer.cursor.rest.drop 1)
  let indent := header.increment.map fun increment => (lexer.indent - 1) + increment
  let (text, rest) ←
    blockScalar folded header.chomping (max lexer.indent 1) { indent } header.rest
  some (({ lexer with keyAllowed := true }.upTo rest).push
    (.scalar (if folded then .other else .literal) text))

def plain (lexer : Lexer) : Option Lexer := do
  let lexer ← lexer.keyStart
  let read ←
    plainScalar lexer.inFlow lexer.indent lexer.cursor.column .nothing [] lexer.cursor.rest
  some (({ lexer with keyAllowed := read.broken }.upTo read.rest).push (.scalar .plain read.text))

def named (lexer : Lexer) (token : String → Token) : Option Lexer := do
  let lexer ← lexer.keyStart
  let (name, rest) ← name? (lexer.cursor.rest.drop 1)
  some ((lexer.upTo rest).push (token name))

def tag (lexer : Lexer) : Option Lexer := do
  let lexer ← lexer.keyStart
  let (name, rest) ← tag? (lexer.cursor.rest.drop 1)
  if isOpenEnd rest || (lexer.inFlow && rest.head? = some ',') then
    some ((lexer.upTo rest).push (.tag name))
  else none

def startsPlain (flow : Bool) (c : Char) (after : List Char) : Bool :=
  !(isBlankOrBreak c || isOpeningIndicator c || c = '-' || c = '?' || c = ':') ||
    (c = '-' && !after.head?.any isBlank) ||
    (!flow && (c = '?' || c = ':') && !isOpenEnd after)

def token (lexer : Lexer) (c : Char) (after : List Char) : Option Lexer :=
  if lexer.cursor.column = 0 && c = '%' then do
    let lexer ← lexer.closeAll
    let rest ← version? lexer.cursor.rest
    some ((lexer.upTo rest).push .version)
  else if lexer.cursor.column = 0 && startsWithMarker lexer.cursor.rest then do
    let lexer ← lexer.closeAll
    some ((lexer.skip 3).push (if c = '-' then .documentStart else .documentEnd))
  else
    let flow := lexer.inFlow
    match c with
    | '[' => lexer.openBracket .bracketOpen
    | '\x7b' => lexer.openBracket .braceOpen
    | ']' => lexer.closeBracket .bracketClose
    | '\x7d' => lexer.closeBracket .braceClose
    | ',' => lexer.comma
    | '*' => lexer.named .alias
    | '&' => lexer.named .anchor
    | '!' => lexer.tag
    | '\'' => lexer.quoted '\''
    | '"' => lexer.quoted '"'
    | _ =>
      if c = '-' && isOpenEnd after then lexer.dash
      else if c = '?' && (flow || isOpenEnd after) then lexer.questionMark
      else if c = ':' && (flow || isOpenEnd after) then lexer.colon
      else if c = '|' && !flow then lexer.block false
      else if c = '>' && !flow then lexer.block true
      else if startsPlain flow c after then lexer.plain
      else none

/-- Reads tokens up to the end of the text. `fuel` bounds their number. -/
def run (fuel : Nat) (lexer : Lexer) : Option (List Token) :=
  match fuel with
  | 0 => none
  | fuel + 1 => do
    let lexer := lexer.skipGaps lexer.cursor.rest.length.succ
    let lexer ← lexer.refreshPlaces
    match lexer.cursor.rest with
    | [] =>
      let lexer ← lexer.closeAll
      some lexer.tokens.reverse
    | c :: after =>
      let lexer ← (lexer.close (lexer.cursor.column + 1)).token c after
      run fuel lexer

end Lexer

def isAdmitted (c : Char) : Bool :=
  c = '\t' || c = '\n' || c = '\r' || c.toNat = 0x85 || (0x20 ≤ c.toNat && c.toNat ≤ 0x7E) ||
    (0xA0 ≤ c.toNat && c.toNat ≤ 0xFFFD) || 0x10000 ≤ c.toNat

/-- The tokens of a text. Marks of the byte order at its start are passed over. -/
def tokens? (text : String) : Option (List Token) :=
  let input := text.toList
  let input := if input.head? = some '\ufeff' then input.drop 1 else input
  let input := if input.head? = some '\ufeff' then input.drop 1 else input
  if input.all isAdmitted then Lexer.run (input.length + 1) { cursor := { rest := input } }
  else none

end Raid.Yaml
