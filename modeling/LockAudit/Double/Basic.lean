/-!
# Doubles as exact binary fractions

A finite double is `significand · 2 ^ exponent` with a sign.  Arithmetic takes
the exact rational result and rounds it once, to the nearest double and, from
the middle, to the one with the even significand.
-/

namespace LockAudit

/-- A finite double.  The values that rounding produces have a significand
below `2 ^ 53`, an exponent of at least `-1074`, and a significand of at least
`2 ^ 52` unless the exponent is `-1074`. -/
structure Double where
  negative : Bool
  significand : Nat
  exponent : Int
  deriving DecidableEq, Repr

namespace Double

def zero (negative : Bool) : Double :=
  ⟨negative, 0, -1074⟩

def isZero (value : Double) : Bool :=
  value.significand == 0

/-- The fraction part is zero. -/
def isIntegral (value : Double) : Bool :=
  value.significand % Nat.pow 2 (-value.exponent).toNat == 0

/-- Strictly below zero; negative zero is not. -/
def isNegative (value : Double) : Bool :=
  value.negative && !value.isZero

/-- The quotient rounded to the nearest natural number, from the middle to the
even one. -/
def roundQuotient (numerator denominator : Nat) : Nat :=
  let quotient := numerator / denominator
  let doubled := 2 * (numerator % denominator)
  if doubled < denominator then quotient
  else if denominator < doubled then quotient + 1
  else quotient + quotient % 2

/-- `numerator / denominator` in units of `2 ^ exponent`, as a fraction. -/
def inUnits (numerator denominator : Nat) (exponent : Int) : Nat × Nat :=
  (numerator * Nat.pow 2 (-exponent).toNat,
    denominator * Nat.pow 2 exponent.toNat)

/-- The exponent at which a positive fraction has a significand of 53 bits, or
the least exponent when that lies below it. -/
def unitExponent (numerator denominator : Nat) : Int :=
  let low : Int := max (-1074) (numerator.log2 - denominator.log2 - 53)
  let (scaled, divisor) := inUnits numerator denominator low
  if scaled / divisor < Nat.pow 2 53 then low else low + 1

/-- The double nearest to a fraction, if its magnitude is in range. -/
def ofRatio? (negative : Bool) (numerator denominator : Nat) : Option Double :=
  if numerator = 0 then some (zero negative)
  else
    let exponent := unitExponent numerator denominator
    let (scaled, divisor) := inUnits numerator denominator exponent
    let rounded := roundQuotient scaled divisor
    let (significand, exponent) :=
      if rounded = Nat.pow 2 53 then (Nat.pow 2 52, exponent + 1)
      else (rounded, exponent)
    if 971 < exponent then none else some ⟨negative, significand, exponent⟩

def mul? (left right : Double) : Option Double :=
  let exponent := left.exponent + right.exponent
  ofRatio? (left.negative != right.negative)
    (left.significand * right.significand * Nat.pow 2 exponent.toNat)
    (Nat.pow 2 (-exponent).toNat)

/-- Division by a double other than zero. -/
def div? (left right : Double) : Option Double :=
  let exponent := left.exponent - right.exponent
  ofRatio? (left.negative != right.negative)
    (left.significand * Nat.pow 2 exponent.toNat)
    (right.significand * Nat.pow 2 (-exponent).toNat)

/-- The double nearest to a power of ten. -/
def powerOfTen? (power : Nat) : Option Double :=
  ofRatio? false (Nat.pow 10 power) 1

def divPowerOfTen? (value : Double) (power : Nat) : Option Double := do
  value.div? (← powerOfTen? power)

/-- Divides by `10 ^ 308` as often as `rounds` says and then by `10 ^ last`,
rounding after every division.  Zero stays as it is. -/
def shrink? (value : Double) (last : Nat) : (rounds : Nat) → Option Double
  | 0 => value.divPowerOfTen? last
  | rounds + 1 =>
      if value.isZero then some value
      else do (← value.divPowerOfTen? 308).shrink? last rounds

/-- Multiplies by a power of ten.  Powers above `10 ^ 308` are out of range
for every value but zero. -/
def scale? (value : Double) (power : Int) : Option Double :=
  match power with
  | .ofNat power =>
      if power ≤ 308 then do value.mul? (← powerOfTen? power)
      else if value.isZero then some value
      else none
  | .negSucc less => value.shrink? (less % 308 + 1) (less / 308)

/-- The double written `significand · 10 ^ power` in decimal. -/
def ofDecimal? (negative : Bool) (significand : Nat) (power : Int) :
    Option Double := do
  let magnitude ← (← ofRatio? false significand 1).scale? power
  return { magnitude with negative }

end Double

end LockAudit
