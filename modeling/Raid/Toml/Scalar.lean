import Raid.Text.Digits

/-!
Texts, numbers and dates as settings write them. A reader takes characters from the front and
returns the rest.
-/

namespace Raid.Toml

open Text (digitsValue)

def isBlank (c : Char) : Bool := c = ' ' || c = '\t'

/-- Characters that must not stand in a text as they are. A tab may. -/
def isControl (c : Char) : Bool := (c.toNat < 32 && c ≠ '\t') || c.toNat = 127

def startsBreak (input : List Char) : Bool :=
  match input with
  | '\n' :: _ => true
  | '\r' :: '\n' :: _ => true
  | _ => false

def escape? : List Char → Option (Char × Nat)
  | [] => none
  | c :: rest =>
    let numbered (width : Nat) : Option (Char × Nat) :=
      (Text.codePointAt? width rest).map fun c => (c, width + 1)
    match c with
    | 'x' => numbered 2
    | 'u' => numbered 4
    | 'U' => numbered 8
    | 'b' => some ('\x08', 1)
    | 't' => some ('\t', 1)
    | 'n' => some ('\n', 1)
    | 'f' => some ('\x0c', 1)
    | 'r' => some ('\r', 1)
    | 'e' => some ('\x1b', 1)
    | '"' => some ('"', 1)
    | '\\' => some ('\\', 1)
    | _ => none

/-- A text on one line after its opening quote. `skip` characters have been read already. -/
def lineText (quote : Char) (skip : Nat) (read : List Char) :
    List Char → Option (String × List Char)
  | [] => none
  | c :: rest =>
    match skip with
    | skip + 1 => lineText quote skip read rest
    | 0 =>
      if c = quote then some (String.ofList read.reverse, rest)
      else if c = '\\' && quote = '"' then
        match escape? rest with
        | some (escaped, length) => lineText quote length (escaped :: read) rest
        | none => none
      else if isControl c then none
      else lineText quote 0 (c :: read) rest

/-- The length of the blanks and line breaks after a backslash at the end of a line. -/
def continuation? (input : List Char) : Option Nat :=
  if startsBreak (input.dropWhile isBlank) then
    some (input.takeWhile fun c => isBlank c || c = '\n' || c = '\r').length
  else none

/-- A text over several lines after its three opening quotes. One or two more quotes than close it
belong to it. -/
def linesText (quote : Char) (skip : Nat) (read : List Char) :
    List Char → Option (String × List Char)
  | [] => none
  | c :: rest =>
    match skip with
    | skip + 1 => linesText quote skip read rest
    | 0 =>
      if c = quote then
        let run := ((c :: rest).takeWhile (· = quote)).length
        if 3 ≤ run then
          let own := min (run - 3) 2
          some (String.ofList (List.replicate own quote ++ read).reverse, rest.drop (own + 2))
        else linesText quote 0 (c :: read) rest
      else if c = '\\' && quote = '"' then
        match continuation? rest with
        | some length => linesText quote length read rest
        | none =>
          match escape? rest with
          | some (escaped, length) => linesText quote length (escaped :: read) rest
          | none => none
      else if c = '\n' then linesText quote 0 (c :: read) rest
      else if c = '\r' && startsBreak (c :: rest) then linesText quote 0 read rest
      else if isControl c then none
      else linesText quote 0 (c :: read) rest

def dropBreak (input : List Char) : List Char :=
  match input with
  | '\n' :: rest => rest
  | '\r' :: '\n' :: rest => rest
  | _ => input

/-- A text of any kind; nothing when no quote opens one. -/
def quoted? (input : List Char) : Option (Option (String × List Char)) :=
  match input with
  | '"' :: '"' :: '"' :: rest => some (linesText '"' 0 [] (dropBreak rest))
  | '"' :: rest => some (lineText '"' 0 [] rest)
  | '\'' :: '\'' :: '\'' :: rest => some (linesText '\'' 0 [] (dropBreak rest))
  | '\'' :: rest => some (lineText '\'' 0 [] rest)
  | _ => none

/-- Digits with single underscores between them. -/
def isDigits (isDigit : Char → Bool) (text : List Char) : Bool :=
  text.head?.any isDigit && text.getLast?.any isDigit &&
    (text.all fun c => isDigit c || c = '_') &&
    (text.zip (text.drop 1)).all fun pair => pair.1 ≠ '_' || pair.2 ≠ '_'

def dropSign (text : List Char) : List Char :=
  match text with
  | '+' :: rest => rest
  | '-' :: rest => rest
  | _ => text

/-- Decimal digits without a needless zero in front. -/
def isWhole (text : List Char) : Bool :=
  isDigits Char.isDigit text && (text.length = 1 || text.head? ≠ some '0')

def isExponent (text : List Char) : Bool := isDigits Char.isDigit (dropSign text)

def isRealTail (tail : List Char) : Bool :=
  match tail with
  | '.' :: rest =>
    let fraction := rest.takeWhile fun c => c ≠ 'e' && c ≠ 'E'
    isDigits Char.isDigit fraction &&
      match rest.dropWhile fun c => c ≠ 'e' && c ≠ 'E' with
      | [] => true
      | _ :: exponent => isExponent exponent
  | c :: exponent => (c = 'e' || c = 'E') && isExponent exponent
  | [] => false

def isNumber (text : List Char) : Bool :=
  let body := dropSign text
  let front := body.takeWhile fun c => c.isDigit || c = '_'
  let tail := body.dropWhile fun c => c.isDigit || c = '_'
  body = ['i', 'n', 'f'] || body = ['n', 'a', 'n'] || isWhole body ||
    (isWhole front && isRealTail tail) ||
    match text with
    | '0' :: 'x' :: digits => isDigits (fun c => (Text.hexValue? c).isSome) digits
    | '0' :: 'o' :: digits => isDigits (fun c => '0' ≤ c && c ≤ '7') digits
    | '0' :: 'b' :: digits => isDigits (fun c => c = '0' || c = '1') digits
    | _ => false

def isPair (low high : Nat) (a b : Char) : Bool :=
  a.isDigit && b.isDigit && low ≤ digitsValue [a, b] && digitsValue [a, b] ≤ high

def isLeapYear (year : Nat) : Bool :=
  year % 4 = 0 && (year % 100 ≠ 0 || year % 400 = 0)

def daysInMonth (year month : Nat) : Nat :=
  if month = 2 then if isLeapYear year then 29 else 28
  else if month = 4 ∨ month = 6 ∨ month = 9 ∨ month = 11 then 30 else 31

def date? (text : List Char) : Option (List Char) :=
  match text with
  | y :: e :: a :: r :: '-' :: m :: o :: '-' :: d :: f :: rest =>
    let year := [y, e, a, r]
    if year.all Char.isDigit && isPair 1 12 m o &&
        isPair 1 (daysInMonth (digitsValue year) (digitsValue [m, o])) d f then
      some rest
    else none
  | _ => none

/-- The text after a time, if one begins it. Seconds may be left out. -/
def time? (text : List Char) : Option (List Char) :=
  match text with
  | h :: o :: ':' :: m :: i :: rest =>
    if isPair 0 23 h o && isPair 0 59 m i then
      match rest with
      | ':' :: s :: e :: rest =>
        if isPair 0 60 s e then
          match rest with
          | '.' :: after =>
            let fraction := after.takeWhile Char.isDigit
            if fraction.isEmpty then none else some (after.drop fraction.length)
          | _ => some rest
        else none
      | ':' :: _ => none
      | _ => some rest
    else none
  | _ => none

/-- The end of a date with a time: nothing, or the distance to universal time. -/
def isOffset (text : List Char) : Bool :=
  match text with
  | [] => true
  | [c] => c = 'Z' || c = 'z'
  | [sign, h, o, ':', m, i] =>
    (sign = '+' || sign = '-') && isPair 0 23 h o && isPair 0 59 m i
  | _ => false

def isDate (text : List Char) : Bool :=
  match date? text with
  | some [] => true
  | some (c :: rest) =>
    (c = 'T' || c = 't' || c = ' ') &&
      match time? rest with
      | some rest => isOffset rest
      | none => false
  | none =>
    match time? text with
    | some [] => true
    | _ => false

end Raid.Toml
