import Raid.Json.Basic
import Raid.Text.Digits

/-!
Reading values from text. A reader takes characters from the front and returns the rest; the
members of an object keep their order and their repetitions, so that a later step can tell a
repeated field from a single one.
-/

namespace Raid.Json

namespace Reader

open Text (hexValue? digitsValue)

/-- Blank, tab, line feed and carriage return separate tokens. -/
def isBlank (c : Char) : Bool := c = ' ' || c = '\t' || c = '\n' || c = '\r'

def skipBlanks (input : List Char) : List Char := input.dropWhile isBlank

def hexQuad? (a b c d : Char) : Option Nat := do
  let a ← hexValue? a
  let b ← hexValue? b
  let c ← hexValue? c
  let d ← hexValue? d
  pure (a * 4096 + b * 256 + c * 16 + d)

def shortEscape? (c : Char) : Option Char :=
  match c with
  | '"' => some '"'
  | '\\' => some '\\'
  | '/' => some '/'
  | 'b' => some '\x08'
  | 'f' => some '\x0c'
  | 'n' => some '\n'
  | 'r' => some '\r'
  | 't' => some '\t'
  | _ => none

/-- The text up to the closing quote. A character beyond the first plane may be written as two
escapes; half of such a pair is refused, and so is a control character that is not escaped. -/
def quoted (read : List Char) : List Char → Option (String × List Char)
  | [] => none
  | '"' :: rest => some (String.ofList read.reverse, rest)
  | '\\' :: 'u' :: a :: b :: c :: d :: rest =>
    match hexQuad? a b c d with
    | none => none
    | some unit =>
      if 0xD800 ≤ unit ∧ unit < 0xDC00 then
        match rest with
        | '\\' :: 'u' :: e :: f :: g :: h :: rest =>
          match hexQuad? e f g h with
          | none => none
          | some low =>
            if 0xDC00 ≤ low ∧ low < 0xE000 then
              quoted (Char.ofNat (0x10000 + (unit - 0xD800) * 1024 + (low - 0xDC00)) :: read) rest
            else none
        | _ => none
      else if 0xDC00 ≤ unit ∧ unit < 0xE000 then none
      else quoted (Char.ofNat unit :: read) rest
  | '\\' :: c :: rest =>
    match shortEscape? c with
    | some c => quoted (c :: read) rest
    | none => none
  | c :: rest => if c.toNat < 32 then none else quoted (c :: read) rest

/-- The greatest whole number that is kept exactly. -/
def greatestWhole : Nat := Nat.pow 2 64 - 1

/-- Adds digits to a significand until the next one would not fit; the rest of the digits are
returned. -/
def significand : Nat → List Char → Nat × List Char
  | total, [] => (total, [])
  | total, c :: rest =>
    let next := total * 10 + (c.toNat - 48)
    if greatestWhole < next then (total, c :: rest) else significand next rest

/-- The significand and the power of ten, both rounded to binary first, multiplied or divided
with one more rounding. Nothing when the number lies beyond the greatest one. -/
def realOfParts (negative : Bool) (digits : Nat) (power : Int) : Option Binary64 := do
  let front ← Binary64.ofRatio negative digits 1
  if front.isZero then pure front
  else if 308 < power then none
  else if 0 ≤ power then front.timesPowerOfTen power.natAbs
  else if -308 ≤ power then front.overPowerOfTen power.natAbs
  else
    let reduced ← front.overPowerOfTen 308
    if -616 ≤ power then reduced.overPowerOfTen (power.natAbs - 308)
    else pure (Binary64.zero negative)

def numberOfParts (negative : Bool) (front : List Char) (fraction : Option (List Char))
    (exponent : Option Int) : Option Number :=
  let (total, cut) := significand 0 front
  match fraction, exponent with
  | none, none =>
    if cut.isEmpty then
      if negative then
        if total = 0 then some (.real (Binary64.zero true))
        else if total ≤ Nat.pow 2 63 then some (.whole (-(total : Int)))
        else (realOfParts true total 0).map .real
      else some (.whole total)
    else (realOfParts negative total cut.length).map .real
  | _, _ =>
    let decimals := fraction.getD []
    let (total, left) := significand total decimals
    let power : Int := cut.length - ((decimals.length : Int) - left.length) + exponent.getD 0
    if total ≠ 0 ∧ 100000 < power then none
    else (realOfParts negative total power).map .real

/-- A number: no zero in front of other digits, at least one digit on each side of the point. -/
def number (input : List Char) : Option (Number × List Char) := do
  let (negative, rest) := match input with
    | '-' :: rest => (true, rest)
    | _ => (false, input)
  let front := rest.takeWhile Char.isDigit
  let rest := rest.dropWhile Char.isDigit
  if front.isEmpty ∨ (front.head? = some '0' ∧ 1 < front.length) then none
  else
    let (fraction, rest) ← match rest with
      | '.' :: rest =>
        let digits := rest.takeWhile Char.isDigit
        if digits.isEmpty then none else some (some digits, rest.dropWhile Char.isDigit)
      | _ => some (none, rest)
    let (exponent, rest) ← match rest with
      | c :: rest' =>
        if c = 'e' ∨ c = 'E' then
          let (sign, rest') : Int × List Char := match rest' with
            | '-' :: rest'' => (-1, rest'')
            | '+' :: rest'' => (1, rest'')
            | _ => (1, rest')
          let digits := rest'.takeWhile Char.isDigit
          if digits.isEmpty then none
          else some (some (sign * (digitsValue digits : Int)), rest'.dropWhile Char.isDigit)
        else some (none, rest)
      | [] => some (none, [])
    let read ← numberOfParts negative front fraction exponent
    pure (read, rest)

def word (expected : List Char) (input : List Char) : Option (List Char) :=
  if expected.isPrefixOf input then some (input.drop expected.length) else none

mutual

/-- A value. `depth` counts down with every level of nesting; `fuel` bounds the steps and is
never short when it is the length of the input. -/
def value (fuel depth : Nat) (input : List Char) : Option (Json × List Char) :=
  match fuel with
  | 0 => none
  | fuel + 1 =>
    match skipBlanks input with
    | [] => none
    | '"' :: rest => (quoted [] rest).map fun (read, rest) => (.text read, rest)
    | '[' :: rest =>
      match depth with
      | 0 => none
      | depth + 1 =>
        match skipBlanks rest with
        | ']' :: rest => some (.list [], rest)
        | _ => (items fuel depth rest).map fun (read, rest) => (.list read, rest)
    | '\x7b' :: rest =>
      match depth with
      | 0 => none
      | depth + 1 =>
        match skipBlanks rest with
        | '\x7d' :: rest => some (.object [], rest)
        | _ => (members fuel depth rest).map fun (read, rest) => (.object read, rest)
    | 'n' :: rest => (word ['u', 'l', 'l'] rest).map fun rest => (.null, rest)
    | 't' :: rest => (word ['r', 'u', 'e'] rest).map fun rest => (.flag true, rest)
    | 'f' :: rest => (word ['a', 'l', 's', 'e'] rest).map fun rest => (.flag false, rest)
    | input => (number input).map fun (read, rest) => (.number read, rest)

def items (fuel depth : Nat) (input : List Char) : Option (List Json × List Char) :=
  match fuel with
  | 0 => none
  | fuel + 1 => do
    let (item, rest) ← value fuel depth input
    match skipBlanks rest with
    | ']' :: rest => pure ([item], rest)
    | ',' :: rest =>
      let (others, rest) ← items fuel depth rest
      pure (item :: others, rest)
    | _ => none

def members (fuel depth : Nat) (input : List Char) :
    Option (List (String × Json) × List Char) :=
  match fuel with
  | 0 => none
  | fuel + 1 =>
    match skipBlanks input with
    | '"' :: rest => do
      let (key, rest) ← quoted [] rest
      match skipBlanks rest with
      | ':' :: rest =>
        let (item, rest) ← value fuel depth rest
        match skipBlanks rest with
        | '\x7d' :: rest => pure ([(key, item)], rest)
        | ',' :: rest =>
          let (others, rest) ← members fuel depth rest
          pure ((key, item) :: others, rest)
        | _ => none
      | _ => none
    | _ => none

end

def greatestDepth : Nat := 127

end Reader

def parse (text : String) : Option Json :=
  let input := text.toList
  match Reader.value (2 * input.length + 2) Reader.greatestDepth input with
  | some (value, rest) => if (Reader.skipBlanks rest).isEmpty then some value else none
  | none => none

end Raid.Json
