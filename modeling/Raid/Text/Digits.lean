/-!
Digits and the numbers and characters that they stand for.
-/

namespace Raid.Text

def hexValue? (c : Char) : Option Nat :=
  if '0' ≤ c ∧ c ≤ '9' then some (c.toNat - 48)
  else if 'a' ≤ c ∧ c ≤ 'f' then some (c.toNat - 87)
  else if 'A' ≤ c ∧ c ≤ 'F' then some (c.toNat - 55)
  else none

def digitsValue (digits : List Char) : Nat :=
  digits.foldl (fun total c => total * 10 + (c.toNat - 48)) 0

/-- The value of digits in a base, at least one of them. -/
def digitsIn? (base : Nat) (digits : List Char) : Option Nat :=
  if digits.isEmpty then none
  else
    digits.foldl (fun (total : Option Nat) c =>
      match total, hexValue? c with
      | some total, some digit => if digit < base then some (total * base + digit) else none
      | _, _ => none) (some 0)

/-- The hexadecimal digits of a number, small letters, with zeros in front up to a width. -/
def hexText (width value : Nat) : List Char :=
  let digits := Nat.toDigits 16 value
  List.replicate (width - digits.length) '0' ++ digits

def upperHex (width value : Nat) : List Char := (hexText width value).map Char.toUpper

def codePoint? (digits : List Char) : Option Char := do
  let value ← digitsIn? 16 digits
  if h : value.isValidChar then some (Char.ofNatAux value h) else none

/-- The character that the first `width` characters write as digits. -/
def codePointAt? (width : Nat) (input : List Char) : Option Char :=
  if (input.take width).length = width then codePoint? (input.take width) else none

end Raid.Text
