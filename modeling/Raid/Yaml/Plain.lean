import Raid.Json.Reader

/-!
What an unquoted scalar stands for. Words and numbers have meanings of their own; everything else
is text.
-/

namespace Raid.Yaml

open Text (digitsIn? digitsValue)

inductive Meaning where
  | null
  | flag (value : Bool)
  | whole (value : Int)
  | real (value : Binary64)
  /-- An infinity, or what is not a number. -/
  | unbounded
  | text
  deriving Repr, DecidableEq

def isNullWord (text : String) : Bool :=
  text = "null" || text = "Null" || text = "NULL" || text = "~"

def flagWord? (text : String) : Option Bool :=
  if text = "true" ∨ text = "True" ∨ text = "TRUE" then some true
  else if text = "false" ∨ text = "False" ∨ text = "FALSE" then some false
  else none

def startsWithSign (text : List Char) : Bool :=
  text.head? = some '+' || text.head? = some '-'

def dropSign (text : List Char) : List Char := if startsWithSign text then text.drop 1 else text

/-- Digits with a needless zero in front. They stand for themselves, not for a number. -/
def isPaddedDigits (text : List Char) : Bool :=
  let body := dropSign text
  1 < body.length && body.head? = some '0' && (body.drop 1).all Char.isDigit

def based? (text : List Char) : Option Nat :=
  match text with
  | '0' :: 'x' :: rest => digitsIn? 16 rest
  | '0' :: 'o' :: rest => digitsIn? 8 rest
  | '0' :: 'b' :: rest => digitsIn? 2 rest
  | _ => none

def unsigned? (text : List Char) : Option Nat :=
  let body := if text.head? = some '+' then text.drop 1 else text
  match based? body with
  | some value => some value
  | none => if isPaddedDigits text then none else digitsIn? 10 body

def negative? (text : List Char) : Option Int :=
  match text with
  | '-' :: body =>
    match based? body with
    | some value => some (-(value : Int))
    | none => if isPaddedDigits text then none else (digitsIn? 10 body).map fun value => -(value : Int)
  | _ => none

/-- A whole number that fits into 128 bits. -/
def whole? (text : List Char) : Option Int :=
  match unsigned? text with
  | some value => if value < Nat.pow 2 128 then some value else none
  | none =>
    match negative? text with
    | some value => if -(Nat.pow 2 127 : Int) ≤ value then some value else none
    | none => none

/-- A decimal number: a sign, digits around an optional point, an optional exponent. Both sides of
the point may be empty, but not together. -/
def decimal? (text : List Char) : Option Binary64 :=
  let negative := text.head? = some '-'
  let body := dropSign text
  let front := body.takeWhile Char.isDigit
  let rest := body.dropWhile Char.isDigit
  let (fraction, rest) := match rest with
    | '.' :: rest => (rest.takeWhile Char.isDigit, rest.dropWhile Char.isDigit)
    | _ => ([], rest)
  if front.isEmpty ∧ fraction.isEmpty then none
  else
    let digits := digitsValue (front ++ fraction)
    let power : Int := -(fraction.length : Int)
    match rest with
    | [] => Binary64.ofDecimal negative digits power
    | mark :: exponent =>
      if mark = 'e' ∨ mark = 'E' then
        match digitsIn? 10 (dropSign exponent) with
        | some size =>
          Binary64.ofDecimal negative digits
            (power + if exponent.head? = some '-' then -(size : Int) else size)
        | none => none
      else none

def real? (text : List Char) : Option Meaning :=
  let body := if text.head? = some '+' then text.drop 1 else text
  if text.head? = some '+' ∧ startsWithSign body then none
  else
    let word := String.ofList body
    let whole := String.ofList text
    if word = ".inf" ∨ word = ".Inf" ∨ word = ".INF" then some .unbounded
    else if whole = "-.inf" ∨ whole = "-.Inf" ∨ whole = "-.INF" then some .unbounded
    else if whole = ".nan" ∨ whole = ".NaN" ∨ whole = ".NAN" then some .unbounded
    else (decimal? body).map .real

/-- The meaning of an unquoted scalar. Nothing at all stands for null. -/
def meaning (text : String) : Meaning :=
  if text.isEmpty ∨ isNullWord text then .null
  else
    match flagWord? text with
    | some value => .flag value
    | none =>
      match whole? text.toList with
      | some value => .whole value
      | none =>
        if isPaddedDigits text.toList then .text
        else (real? text.toList).getD .text

end Raid.Yaml
