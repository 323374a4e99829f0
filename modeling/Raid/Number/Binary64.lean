/-!
Binary floating-point numbers of 64 bits, finite ones only, as a sign, a whole mantissa and a
power of two. All arithmetic here is exact on natural numbers; only `ofRatio` rounds.
-/

namespace Raid

/-- The number `± mantissa * 2 ^ exponent`. A number other than zero has a mantissa of 53 bits
unless its exponent is the least one, so equal numbers of one sign are equal values. -/
structure Binary64 where
  negative : Bool
  mantissa : Nat
  exponent : Int
  deriving Repr, DecidableEq

namespace Binary64

def leastExponent : Int := -1074

def greatestExponent : Int := 971

def zero (negative : Bool) : Binary64 := ⟨negative, 0, leastExponent⟩

def isZero (x : Binary64) : Bool := x.mantissa == 0

/-- The quotient rounded to the nearest whole number, a half to the even neighbour. -/
def roundQuotient (numerator denominator : Nat) : Nat :=
  let quotient := numerator / denominator
  let twice := 2 * (numerator % denominator)
  if twice < denominator then quotient
  else if denominator < twice then quotient + 1
  else if quotient % 2 = 0 then quotient else quotient + 1

def scaled (numerator denominator : Nat) (exponent : Int) : Nat × Nat :=
  if exponent < 0 then (numerator * Nat.pow 2 exponent.natAbs, denominator)
  else (numerator, denominator * Nat.pow 2 exponent.natAbs)

/-- The exponent at which the quotient has 53 bits before its binary point, or the least one. -/
def exponentFor (numerator denominator : Nat) : Int :=
  let guess : Int := (Nat.log2 numerator : Int) - (Nat.log2 denominator : Int) - 52
  let (n, d) := scaled numerator denominator guess
  let fitted := if n / d < Nat.pow 2 52 then guess - 1 else guess
  max fitted leastExponent

def ofRatio (negative : Bool) (numerator denominator : Nat) : Option Binary64 :=
  if numerator = 0 then some (zero negative)
  else
    let exponent := exponentFor numerator denominator
    let (n, d) := scaled numerator denominator exponent
    let mantissa := roundQuotient n d
    let (mantissa, exponent) :=
      if mantissa = Nat.pow 2 53 then (Nat.pow 2 52, exponent + 1) else (mantissa, exponent)
    if greatestExponent < exponent then none else some ⟨negative, mantissa, exponent⟩

def magnitude (x : Binary64) : Nat × Nat :=
  if x.exponent < 0 then (x.mantissa, Nat.pow 2 x.exponent.natAbs)
  else (x.mantissa * Nat.pow 2 x.exponent.natAbs, 1)

/-- The nearest number to `digits * 10 ^ power`. Powers beyond all finite numbers are cut
before they are computed. -/
def ofDecimal (negative : Bool) (digits : Nat) (power : Int) : Option Binary64 :=
  let width : Int := (Nat.toDigits 10 digits).length
  if digits = 0 then some (zero negative)
  else if 400 < power + width then none
  else if power + width < -400 then some (zero negative)
  else if power < 0 then ofRatio negative digits (Nat.pow 10 power.natAbs)
  else ofRatio negative (digits * Nat.pow 10 power.natAbs) 1

def timesPowerOfTen (x : Binary64) (power : Nat) : Option Binary64 := do
  let scale ← ofRatio false (Nat.pow 10 power) 1
  let (a, b) := x.magnitude
  let (c, d) := scale.magnitude
  ofRatio x.negative (a * c) (b * d)

def overPowerOfTen (x : Binary64) (power : Nat) : Option Binary64 := do
  let scale ← ofRatio false (Nat.pow 10 power) 1
  let (a, b) := x.magnitude
  let (c, d) := scale.magnitude
  ofRatio x.negative (a * d) (b * c)

example : ofDecimal false 1 (-1) = some ⟨false, 7205759403792794, -56⟩ := by decide +kernel
example : ofDecimal false 5 (-324) = some ⟨false, 1, -1074⟩ := by decide +kernel
example : ofDecimal false 1 309 = none := by decide +kernel

end Binary64

end Raid
