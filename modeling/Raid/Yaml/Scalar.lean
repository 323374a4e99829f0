import Raid.Yaml.Plain
import Raid.Yaml.Printer

/-!
Scalars in the text of a document: plain, quoted, and blocks of lines. A reader takes characters
from the front and returns the rest; where lines are folded, the blanks and line breaks between
two words are kept as a gap until the next word shows what they stand for.
-/

namespace Raid.Yaml

def isBlank (c : Char) : Bool := c = ' ' || c = '\t'

def isOpenEnd (input : List Char) : Bool := input.head?.all isBlankOrBreak

def startsWithMarker (input : List Char) : Bool :=
  (input.take 3 = ['-', '-', '-'] || input.take 3 = ['.', '.', '.']) && isOpenEnd (input.drop 3)

def isHalfBreak (c : Char) (rest : List Char) : Bool := c = '\r' && rest.head? = some '\n'

def readBreak (c : Char) : Char :=
  if c = '\r' || c.toNat = 0x85 then '\n' else c

inductive Gap where
  | nothing
  | blanks (reversed : List Char)
  /-- Line breaks: the one that may be folded, and those after it. -/
  | lines (first : Option Char) (reversed : List Char)
  deriving Repr, DecidableEq

namespace Gap

/-- The text that the gap stands for, reversed. A single line feed becomes a blank; of several,
the first is dropped. -/
def reversedText : Gap → List Char
  | .nothing => []
  | .blanks reversed => reversed
  | .lines (some '\n') [] => [' ']
  | .lines (some '\n') reversed => reversed
  | .lines (some c) reversed => reversed ++ [c]
  | .lines none reversed => reversed

def addBlank (c : Char) : Gap → Gap
  | .nothing => .blanks [c]
  | .blanks reversed => .blanks (c :: reversed)
  | gap => gap

def addBreak (c : Char) : Gap → Gap
  | .lines first reversed => .lines first (readBreak c :: reversed)
  | _ => .lines (some (readBreak c)) []

def isEmpty : Gap → Bool
  | .nothing => true
  | _ => false

def isBroken : Gap → Bool
  | .lines .. => true
  | _ => false

end Gap

structure PlainScalar where
  text : String
  /-- Whether line breaks follow it. -/
  broken : Bool
  rest : List Char
  deriving Repr

def isFlowIndicator (c : Char) : Bool :=
  c = ',' || c = '[' || c = ']' || c = '\x7b' || c = '\x7d'

/-- A plain scalar. It ends before a comment, before a colon that a blank follows, before a mark
of the document, inside brackets before their indicators, and outside of them on a line that is
indented less than `indent`. -/
def plainScalar (flow : Bool) (indent column : Nat) (gap : Gap) (read : List Char) :
    List Char → Option PlainScalar
  | [] => some ⟨String.ofList read.reverse, gap.isBroken, []⟩
  | c :: rest =>
    if isHalfBreak c rest then plainScalar flow indent column gap read rest
    else if isBreak c then plainScalar flow indent 0 (gap.addBreak c) read rest
    else if isBlank c then
      if gap.isBroken && c = '\t' && column < indent then none
      else plainScalar flow indent (column + 1) (gap.addBlank c) read rest
    else if !gap.isEmpty &&
        ((!flow && column < indent) || (column = 0 && startsWithMarker (c :: rest)) || c = '#') then
      some ⟨String.ofList read.reverse, gap.isBroken, c :: rest⟩
    else if flow && c = ':' && rest.head?.any (fun next => next = '?' || isFlowIndicator next) then
      none
    else if (c = ':' && isOpenEnd rest) || (flow && isFlowIndicator c) then
      some ⟨String.ofList read.reverse, gap.isBroken, c :: rest⟩
    else plainScalar flow indent (column + 1) .nothing (c :: (gap.reversedText ++ read)) rest

def escape? : List Char → Option (Char × Nat)
  | [] => none
  | c :: rest =>
    let numbered (width : Nat) : Option (Char × Nat) :=
      (Text.codePointAt? width rest).map fun c => (c, width + 1)
    match c with
    | 'x' => numbered 2
    | 'u' => numbered 4
    | 'U' => numbered 8
    | '0' => some ('\x00', 1)
    | 'a' => some ('\x07', 1)
    | 'b' => some ('\x08', 1)
    | 't' => some ('\t', 1)
    | '\t' => some ('\t', 1)
    | 'n' => some ('\n', 1)
    | 'v' => some ('\x0b', 1)
    | 'f' => some ('\x0c', 1)
    | 'r' => some ('\r', 1)
    | 'e' => some ('\x1b', 1)
    | ' ' => some (' ', 1)
    | '"' => some ('"', 1)
    | '/' => some ('/', 1)
    | '\\' => some ('\\', 1)
    | 'N' => some ('\u0085', 1)
    | '_' => some ('\u00a0', 1)
    | 'L' => some ('\u2028', 1)
    | 'P' => some ('\u2029', 1)
    | _ => none

/-- A quoted scalar after its opening quote, up to the closing one. `skip` characters have been
read already. -/
def quotedScalar (quote : Char) (skip column : Nat) (gap : Gap) (read : List Char) :
    List Char → Option (String × List Char)
  | [] => none
  | c :: rest =>
    match skip with
    | skip + 1 => quotedScalar quote skip (column + 1) gap read rest
    | 0 =>
      if isHalfBreak c rest then quotedScalar quote 0 column gap read rest
      else if isBreak c then quotedScalar quote 0 0 (gap.addBreak c) read rest
      else if isBlank c then quotedScalar quote 0 (column + 1) (gap.addBlank c) read rest
      else if !gap.isEmpty && column = 0 && startsWithMarker (c :: rest) then none
      else
        let read := gap.reversedText ++ read
        if c = quote then
          if quote = '\'' && rest.head? = some '\'' then
            quotedScalar quote 1 (column + 1) .nothing ('\'' :: read) rest
          else some (String.ofList read.reverse, rest)
        else if c = '\\' && quote = '"' then
          match rest with
          | next :: after =>
            if isBreak next then
              quotedScalar quote (if isHalfBreak next after then 2 else 1) 0 (.lines none []) read
                rest
            else
              match escape? rest with
              | some (escaped, length) =>
                quotedScalar quote length (column + 1) .nothing (escaped :: read) rest
              | none => none
          | [] => none
        else quotedScalar quote 0 (column + 1) .nothing (c :: read) rest

inductive Chomping where
  | strip
  | clip
  | keep
  deriving Repr, DecidableEq

/-- The marks after the indicator of a block: what becomes of its last line breaks, and how far it
is indented. Nothing but a comment may follow on that line. -/
structure BlockHeader where
  chomping : Chomping
  increment : Option Nat
  rest : List Char

def chomping? (c : Char) : Option Chomping :=
  if c = '+' then some .keep else if c = '-' then some .strip else none

def increment? (c : Char) : Option Nat :=
  if c.isDigit ∧ c ≠ '0' then some (c.toNat - 48) else none

def lineRest? (input : List Char) : Option (List Char) :=
  let rest := input.dropWhile isBlank
  let rest := if rest.head? = some '#' then rest.dropWhile fun c => !isBreak c else rest
  match rest with
  | [] => some []
  | c :: after =>
    if isHalfBreak c after then some (after.drop 1)
    else if isBreak c then some after
    else none

def blockHeader? (input : List Char) : Option BlockHeader := do
  let first := input.head?.bind chomping?
  let rest := if first.isSome then input.drop 1 else input
  let increment := rest.head?.bind increment?
  let rest := if increment.isSome then rest.drop 1 else rest
  let second := if first.isNone ∧ increment.isSome then rest.head?.bind chomping? else none
  let rest := if second.isSome then rest.drop 1 else rest
  let rest ← lineRest? rest
  some ⟨(first.or second).getD .clip, increment, rest⟩

structure BlockState where
  /-- The indentation, once it is known. -/
  indent : Option Nat
  column : Nat := 0
  /-- The farthest column of a blank line before the indentation is known. -/
  farthest : Nat := 0
  inLine : Bool := false
  /-- The break that ended the last line with text. -/
  lineBreak : Option Char := none
  /-- Whether that line began with a blank. -/
  afterBlank : Bool := false
  /-- The breaks of the empty lines after it, reversed. -/
  emptyLines : List Char := []
  /-- The text so far, reversed. -/
  read : List Char := []

namespace BlockState

def isMargin (state : BlockState) : Bool := state.indent.all (state.column < ·)

/-- The text with what stands between the last line and one that begins with `c`. -/
def joined (folded : Bool) (state : BlockState) (c : Char) : List Char :=
  let fold := folded && state.lineBreak = some '\n' && !state.afterBlank && !isBlank c
  let between :=
    if fold then (if state.emptyLines.isEmpty then [' '] else [])
    else state.lineBreak.toList
  state.emptyLines ++ between ++ state.read

def text (state : BlockState) (chomping : Chomping) : String :=
  let ending := match chomping with
    | .strip => []
    | .clip => state.lineBreak.toList
    | .keep => state.emptyLines ++ state.lineBreak.toList
  String.ofList (ending ++ state.read).reverse

end BlockState

/-- The lines of a block. `least` is the indentation that it has to have at least. -/
def blockScalar (folded : Bool) (chomping : Chomping) (least : Nat) (state : BlockState) :
    List Char → Option (String × List Char)
  | [] => some (state.text chomping, [])
  | c :: rest =>
    if isHalfBreak c rest then blockScalar folded chomping least state rest
    else if state.inLine then
      if isBreak c then
        let next := { state with inLine := false, column := 0, lineBreak := some (readBreak c) }
        blockScalar folded chomping least next rest
      else
        let next := { state with read := c :: state.read, column := state.column + 1 }
        blockScalar folded chomping least next rest
    else if isBreak c then
      let next :=
        { state with
          column := 0
          farthest := max state.farthest state.column
          emptyLines := readBreak c :: state.emptyLines }
      blockScalar folded chomping least next rest
    else if state.isMargin && c = ' ' then
      blockScalar folded chomping least { state with column := state.column + 1 } rest
    else if state.isMargin && c = '\t' then none
    else
      let indent := state.indent.getD (max (max state.farthest state.column) least)
      if state.column = indent then
        let next :=
          { state with
            indent := some indent
            column := state.column + 1
            inLine := true
            lineBreak := none
            afterBlank := isBlank c
            emptyLines := []
            read := c :: state.joined folded c }
        blockScalar folded chomping least next rest
      else some (state.text chomping, c :: rest)

end Raid.Yaml
