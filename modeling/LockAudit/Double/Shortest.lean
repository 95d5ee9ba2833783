import LockAudit.Double.Basic

/-!
# The shortest decimal of a double

Among the decimals that are nearer to a double than to any other one, `shortest`
picks one with the fewest digits, and of those the nearest; between two that are
equally near, the last digit is even.  On the grid of `count`-digit decimals
only the two neighbours of the value need be tried: when any point of the grid
lies in the rounding interval, so does one of these.
-/

namespace LockAudit

/-- The positive decimal `digits · 10 ^ power`. -/
structure Decimal where
  digits : Nat
  power : Int
  deriving DecidableEq, Repr

namespace Decimal

/-- Moves the trailing zeros of the digits into the power. -/
def trim (decimal : Decimal) : Decimal :=
  let rec go : Nat → Decimal → Decimal
    | 0, decimal => decimal
    | fuel + 1, decimal =>
        if decimal.digits % 10 = 0 ∧ decimal.digits ≠ 0 then
          go fuel ⟨decimal.digits / 10, decimal.power + 1⟩
        else decimal
  go decimal.digits.log2 decimal

end Decimal

namespace Double

/-- `count · 2 ^ exponent / 10 ^ power` as a fraction. -/
def onGrid (count : Nat) (exponent power : Int) : Nat × Nat :=
  (count * Nat.pow 2 exponent.toNat * Nat.pow 10 (-power).toNat,
    Nat.pow 2 (-exponent).toNat * Nat.pow 10 power.toNat)

/-- The power of ten of the leading decimal digit of a positive value. -/
def leadingPower (value : Double) : Int :=
  let (numerator, denominator) := onGrid value.significand value.exponent 0
  if denominator ≤ numerator then
    (Nat.toDigits 10 (numerator / denominator)).length - 1
  else
    match (List.range 325).find? fun power =>
        denominator ≤ numerator * Nat.pow 10 power with
    | some power => -power
    | none => -325

/-- The nearer of the two grid neighbours that round to the value, if one does;
of two equally near ones the even one.  Distances are compared in quarters of
the value's last place, in which the ends of the rounding interval are whole
numbers. -/
def gridNeighbour? (value : Double) (power : Int) : Option Nat :=
  let below :=
    if value.significand = Nat.pow 2 52 ∧ -1074 < value.exponent then 1 else 2
  let quarters count := onGrid count value.exponent power
  let (low, unit) := quarters (4 * value.significand - below)
  let (high, _) := quarters (4 * value.significand + 2)
  let (exact, _) := quarters (4 * value.significand)
  let inside candidate :=
    let position := 4 * candidate * unit
    if value.significand % 2 = 0 then low ≤ position ∧ position ≤ high
    else low < position ∧ position < high
  let floor := exact / (4 * unit)
  let fromFloor := exact - 4 * floor * unit
  let fromCeiling := 4 * (floor + 1) * unit - exact
  let prefersCeiling :=
    fromCeiling < fromFloor ∨ fromCeiling = fromFloor ∧ floor % 2 = 1
  if inside floor then
    if inside (floor + 1) ∧ prefersCeiling then some (floor + 1)
    else some floor
  else if inside (floor + 1) then some (floor + 1)
  else none

/-- The shortest decimal that reads back as a positive value. -/
def shortest (value : Double) : Decimal :=
  let leading := value.leadingPower
  let candidate? (count : Nat) : Option Decimal :=
    let power := leading - count
    (value.gridNeighbour? power).map (⟨·, power⟩)
  ((List.range 17).findSome? candidate?).getD ⟨0, 0⟩ |>.trim

end Double

/-- Where positional notation ends, by the power of ten of the leading digit. -/
structure NumeralFormat where
  leastPositional : Int
  greatestPositional : Int

namespace NumeralFormat

/-- The digits with a point after the first `whole` of them, padded with zeros
on either side so that both parts have a digit. -/
def positional (digits : List Char) (leading : Int) : List Char :=
  if leading < 0 then
    '0' :: '.' :: List.replicate (-leading - 1).toNat '0' ++ digits
  else
    let whole := leading.toNat + 1
    if digits.length ≤ whole then
      digits ++ List.replicate (whole - digits.length) '0' ++ ['.', '0']
    else digits.take whole ++ '.' :: digits.drop whole

/-- One digit, the other digits after a point, and the signed power. -/
def scientific (digits : List Char) (leading : Int) : List Char :=
  let mantissa :=
    match digits with
    | first :: second :: rest => first :: '.' :: second :: rest
    | short => short
  let sign := if leading < 0 then '-' else '+'
  mantissa ++ 'e' :: sign :: Nat.toDigits 10 leading.natAbs

/-- The shortest numeral of a double; an integral one written positionally
keeps one zero after the point. -/
def write (format : NumeralFormat) (value : Double) : String :=
  let magnitude :=
    if value.isZero then ['0', '.', '0']
    else
      let decimal := value.shortest
      let digits := Nat.toDigits 10 decimal.digits
      let leading := decimal.power + digits.length - 1
      if format.leastPositional ≤ leading ∧
          leading ≤ format.greatestPositional then
        positional digits leading
      else scientific digits leading
  String.ofList (if value.negative then '-' :: magnitude else magnitude)

end NumeralFormat

end LockAudit
