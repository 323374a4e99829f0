import Raid.Text.Blank
import Raid.Text.Digits

/-!
Instants in universal time, their calendar dates, and the texts that write them.
-/

namespace Raid

/-- Seconds since the start of 1970 and a fraction in billionths. A fraction of a whole second or
more marks an instant inside a leap second. -/
structure Moment where
  seconds : Int
  nanos : Nat
  deriving Repr, DecidableEq, Inhabited

namespace Moment

/-- A day of the calendar that continues the present rule of leap years in both directions. -/
structure Date where
  year : Int
  month : Nat
  day : Nat
  deriving Repr, DecidableEq

def isLeapYear (year : Int) : Bool :=
  year % 4 = 0 && (year % 100 ≠ 0 || year % 400 = 0)

def daysInMonth (year : Int) (month : Nat) : Nat :=
  match month with
  | 2 => if isLeapYear year then 29 else 28
  | 4 | 6 | 9 | 11 => 30
  | _ => 31

/-- Days since the start of 1970. Years are counted from March, so that a leap day ends one. -/
def Date.dayNumber (date : Date) : Int :=
  let year := if date.month ≤ 2 then date.year - 1 else date.year
  let monthFromMarch : Int := if date.month ≤ 2 then date.month + 9 else date.month - 3
  let era := year / 400
  let yearOfEra := year % 400
  let dayOfYear := (153 * monthFromMarch + 2) / 5 + date.day - 1
  let dayOfEra := yearOfEra * 365 + yearOfEra / 4 - yearOfEra / 100 + dayOfYear
  era * 146097 + dayOfEra - 719468

def Date.ofDayNumber (number : Int) : Date :=
  let shifted := number + 719468
  let era := shifted / 146097
  let dayOfEra := shifted % 146097
  let yearOfEra := (dayOfEra - dayOfEra / 1460 + dayOfEra / 36524 - dayOfEra / 146096) / 365
  let dayOfYear := dayOfEra - (365 * yearOfEra + yearOfEra / 4 - yearOfEra / 100)
  let monthFromMarch := (5 * dayOfYear + 2) / 153
  let day := dayOfYear - (153 * monthFromMarch + 2) / 5 + 1
  let month := if monthFromMarch < 10 then monthFromMarch + 3 else monthFromMarch - 9
  let year := yearOfEra + era * 400 + (if month ≤ 2 then 1 else 0)
  ⟨year, month.toNat, day.toNat⟩

example : Date.dayNumber ⟨2024, 2, 29⟩ = 19782 := by decide
example : Date.ofDayNumber 19782 = ⟨2024, 2, 29⟩ := by decide
example : Date.ofDayNumber (-1) = ⟨1969, 12, 31⟩ := by decide

/-- The first and the last year that can be read. -/
def firstYear : Int := -262143

def lastYear : Int := 262142

/-- The second of the day, before a leap second is counted. -/
def secondOfDay (moment : Moment) : Nat := (moment.seconds % 86400).toNat

def date (moment : Moment) : Date := Date.ofDayNumber (moment.seconds / 86400)

def padded (width value : Nat) : String :=
  let digits := Nat.toDigits 10 value
  String.ofList (List.replicate (width - digits.length) '0' ++ digits)

/-- Four digits, and a sign in front of years that need more or lie before year zero. -/
def yearText (year : Int) : String :=
  if 0 ≤ year ∧ year ≤ 9999 then padded 4 year.natAbs
  else (if year < 0 then "-" else "+") ++ padded 4 year.natAbs

def dateText (moment : Moment) : String :=
  let date := moment.date
  yearText date.year ++ "-" ++ padded 2 date.month ++ "-" ++ padded 2 date.day

/-- Hours, minutes and seconds. A leap second is the sixtieth. -/
def clockText (moment : Moment) : String :=
  let second := moment.secondOfDay
  padded 2 (second / 3600) ++ ":" ++ padded 2 (second / 60 % 60) ++ ":" ++
    padded 2 (second % 60 + moment.nanos / 1000000000)

/-- The fraction with as many groups of three digits as it needs, up to three. -/
def fractionText (moment : Moment) : String :=
  let nanos := moment.nanos % 1000000000
  if nanos = 0 then ""
  else if nanos % 1000000 = 0 then "." ++ padded 3 (nanos / 1000000)
  else if nanos % 1000 = 0 then "." ++ padded 6 (nanos / 1000)
  else "." ++ padded 9 nanos

def text (moment : Moment) : String :=
  moment.dateText ++ "T" ++ moment.clockText ++ moment.fractionText ++ "Z"

def reportText (moment : Moment) : String := moment.dateText ++ " " ++ moment.clockText ++ " UTC"

/-- Whole thousandths of a second from one moment to another, cut toward zero. A leap second
between the two counts when one of them lies inside it. -/
def millisecondsTo (start finish : Moment) : Int :=
  let leap : Int :=
    if start.secondOfDay < finish.secondOfDay ∧ 1000000000 ≤ start.nanos then 1
    else if finish.secondOfDay < start.secondOfDay ∧ 1000000000 ≤ finish.nanos then -1
    else 0
  let nanos : Int :=
    (finish.seconds - start.seconds + leap) * 1000000000 + (finish.nanos : Int) - start.nanos
  nanos.tdiv 1000000

namespace Reader

open Text (dropBlanks digitsValue)

def digits (most : Nat) (input : List Char) : Option (Nat × List Char) :=
  let taken := (input.take most).takeWhile Char.isDigit
  if taken.isEmpty then none else some (digitsValue taken, input.drop taken.length)

def within (most low high : Nat) (input : List Char) : Option (Nat × List Char) := do
  let (value, rest) ← digits most (dropBlanks input)
  if low ≤ value ∧ value ≤ high then some (value, rest) else none

/-- A year: four digits at most, or a sign and any number of digits. -/
def year (input : List Char) : Option (Int × List Char) :=
  match dropBlanks input with
  | '-' :: rest => (digits rest.length rest).map fun (value, rest) => (-(value : Int), rest)
  | '+' :: rest => (digits rest.length rest).map fun (value, rest) => ((value : Int), rest)
  | rest => (digits 4 rest).map fun (value, rest) => ((value : Int), rest)

def separator (expected : Char) (input : List Char) : Option (List Char) :=
  match dropBlanks input with
  | c :: rest => if c = expected then some rest else none
  | [] => none

/-- A fraction of a second. Digits beyond the ninth are passed over. -/
def fraction (input : List Char) : Option (Nat × List Char) :=
  match input with
  | '.' :: rest =>
    let taken := (rest.take 9).takeWhile Char.isDigit
    if taken.isEmpty then none
    else
      some (digitsValue taken * Nat.pow 10 (9 - taken.length),
        (rest.drop taken.length).dropWhile Char.isDigit)
  | _ => some (0, input)

/-- The distance from universal time in seconds: `Z`, `UTC`, or a sign, two digits of hours and
two of minutes, which colons and blanks may separate. -/
def offset (input : List Char) : Option (Int × List Char) :=
  match dropBlanks input with
  | [] => none
  | c :: rest =>
    if c = 'Z' ∨ c = 'z' then some (0, rest)
    else if (c :: rest.take 2).map Char.toUpper = ['U', 'T', 'C'] then some (0, rest.drop 2)
    else if c = '+' ∨ c = '-' ∨ c = '−' then
      match rest with
      | a :: b :: rest =>
        if a.isDigit ∧ b.isDigit then
          match rest.dropWhile fun c => c = ':' || Text.isBlank c with
          | d :: e :: rest =>
            if '0' ≤ d ∧ d ≤ '5' ∧ e.isDigit then
              let size : Int := (digitsValue [a, b] * 3600 + digitsValue [d, e] * 60 : Nat)
              some (if c = '+' then size else -size, rest)
            else none
          | _ => none
        else none
      | _ => none
    else none

end Reader

def parse (text : String) : Option Moment := do
  let (year, rest) ← Reader.year text.toList
  let rest ← Reader.separator '-' rest
  let (month, rest) ← Reader.within 2 1 12 rest
  let rest ← Reader.separator '-' rest
  let (day, rest) ← Reader.within 2 1 31 rest
  let rest ← match rest with
    | 'T' :: rest => some rest
    | 't' :: rest => some rest
    | ' ' :: rest => some rest
    | _ => none
  let (hour, rest) ← Reader.within 2 0 23 rest
  let rest ← Reader.separator ':' rest
  let (minute, rest) ← Reader.within 2 0 59 rest
  let rest ← Reader.separator ':' rest
  let (second, rest) ← Reader.within 2 0 60 rest
  let (nanos, rest) ← Reader.fraction rest
  let (offset, rest) ← Reader.offset rest
  if (Text.dropBlanks rest).isEmpty ∧ firstYear ≤ year ∧ year ≤ lastYear ∧
      day ≤ daysInMonth year month ∧ -86400 < offset ∧ offset < 86400 then
    let leap := second = 60
    let clock : Int := hour * 3600 + minute * 60 + (if leap then 59 else second)
    some ⟨Date.dayNumber ⟨year, month, day⟩ * 86400 + clock - offset,
      if leap then nanos + 1000000000 else nanos⟩
  else none

end Moment

end Raid
