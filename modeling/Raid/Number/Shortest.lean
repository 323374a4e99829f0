import Raid.Number.Binary64

/-!
The shortest decimal that reads back as a given number, and the text made from it.
-/

namespace Raid.Binary64

/-- Whether the decimal `digits * 10 ^ power` lies where every decimal rounds to `x`. The ends
of that interval belong to it when the mantissa is even. -/
def roundsTo (x : Binary64) (digits : Nat) (power : Int) : Bool :=
  ofDecimal x.negative digits power == some x

/-- Compares `|x - low * 10 ^ power|` with `|x - (low + 1) * 10 ^ power|`, where `low` is the
whole part of `x / 10 ^ power`; the nearer one, the even one of two that are equally near. -/
def nearer (numerator denominator low : Nat) : Nat :=
  let twice := 2 * (numerator - low * denominator)
  if twice < denominator then low
  else if denominator < twice then low + 1
  else if low % 2 = 0 then low else low + 1

/-- The decimal on the grid of `10 ^ power` that reads back as `x`, if there is one. Of two the
nearer is taken. -/
def onGrid (x : Binary64) (power : Int) : Option Nat :=
  let (n, d) := x.magnitude
  let (n, d) := if power < 0 then (n * Nat.pow 10 power.natAbs, d)
    else (n, d * Nat.pow 10 power.natAbs)
  let low := n / d
  let near := nearer n d low
  let far := if near = low then low + 1 else low
  if roundsTo x near power then some near
  else if roundsTo x far power then some far
  else none

def firstGrid (x : Binary64) : Nat → Int → Nat × Int
  | 0, power => (0, power)
  | tries + 1, power =>
    match onGrid x power with
    | some digits => if digits = 0 then firstGrid x tries (power - 1) else (digits, power)
    | none => firstGrid x tries (power - 1)

def withoutZeros : Nat → Nat → Int → Nat × Int
  | 0, digits, power => (digits, power)
  | fuel + 1, digits, power =>
    if digits ≠ 0 ∧ digits % 10 = 0 then withoutZeros fuel (digits / 10) (power + 1)
    else (digits, power)

def shortest (x : Binary64) : Nat × Int :=
  if x.isZero then (0, 0)
  else
    let (n, d) := x.magnitude
    let top : Int := if d ≤ n then (Nat.toDigits 10 (n / d)).length else 1 - (Nat.toDigits 10 (d / n)).length
    let (digits, power) := firstGrid x 24 (top + 1)
    withoutZeros 24 digits power

/-- Positional notation while the point falls within sixteen digits before or five places
after the front, `e` notation beyond. A positional whole number keeps `.0`. -/
def toText (x : Binary64) : String :=
  let sign := if x.negative then "-" else ""
  if x.isZero then sign ++ "0.0"
  else
    let (digits, power) := x.shortest
    let text := Nat.toDigits 10 digits
    let width : Int := text.length
    let point := width + power
    let body : List Char :=
      if 0 ≤ power ∧ point ≤ 16 then
        text ++ List.replicate power.toNat '0' ++ ['.', '0']
      else if 0 < point ∧ point ≤ 16 then
        text.take point.toNat ++ '.' :: text.drop point.toNat
      else if -5 < point ∧ point ≤ 0 then
        '0' :: '.' :: List.replicate point.natAbs '0' ++ text
      else
        let tail := text.drop 1
        let front := if tail.isEmpty then text else text.take 1 ++ '.' :: tail
        front ++ 'e' :: (toString (point - 1)).toList
    sign ++ String.ofList body

end Raid.Binary64
