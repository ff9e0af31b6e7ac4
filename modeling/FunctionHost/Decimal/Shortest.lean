import FunctionHost.Decimal.Double
import FunctionHost.Text.Digits
/-!
# Shortest decimals

Of all decimals that are read back as a given double, the one with the fewest digits is taken, and
of several such the nearest. `shortest` tries one digit, two digits and so on: for each number of
digits only the two neighbours of the double on that grid have to be looked at.
-/

namespace FunctionHost

/-- A decimal: digits times a power of ten. -/
structure Decimal where
  /-- There is a minus sign. -/
  negative : Bool
  /-- The digits, of which the last is not zero unless there is only one. -/
  digits : Nat
  /-- The power of ten. -/
  scale : Int
deriving DecidableEq, Repr

namespace Decimal

open FunctionHost.Text

/-- The numbers that are rounded to a double, in quarters of its last binary digit. -/
structure Interval where
  /-- The least, or the greatest below them. -/
  low : Nat
  /-- The greatest, or the least above them. -/
  high : Nat
  /-- The ends belong to them. -/
  closed : Bool

/-- The numbers that are rounded to a double. -/
def Double.interval (d : Double) : Interval where
  low := if d.mantissa = Nat.pow 2 52 ∧ minExponent < d.exponent then 4 * d.mantissa - 1
    else 4 * d.mantissa - 2
  high := 4 * d.mantissa + 2
  closed := d.mantissa % 2 = 0

/-- A quotient lies between the ends. -/
def Interval.contains (i : Interval) (num den : Nat) : Bool :=
  if i.closed then i.low * den ≤ num && num ≤ i.high * den
  else i.low * den < num && num < i.high * den

/-- A power of ten by its numerator and its denominator. -/
def powerOfTen (e : Int) : Nat × Nat := (Nat.pow 10 e.toNat, Nat.pow 10 (-e).toNat)

/-- More decimal places than any double has zeros after its point. -/
def places : Nat := 400

/-- The power of ten of the first digit of a double. -/
def Double.magnitude (d : Double) : Int :=
  let (up, down) := powerOfTwo d.exponent
  ((decimal (d.mantissa * up * Nat.pow 10 places / down)).length : Int) - 1 - places

/-- A neighbour of a double on the grid of a power of ten, if it is read back as the double: the
nearer one if both are. -/
def Double.onGrid? (d : Double) (power : Int) : Option Nat :=
  let (up, down) := powerOfTwo (d.exponent - 2)
  let (tenUp, tenDown) := powerOfTen power
  let num := 4 * d.mantissa * up * tenDown
  let den := down * tenUp
  let a := num / den
  let fits := fun n => d.interval.contains (n * tenUp * down) (tenDown * up)
  let nearer := if 2 * (num % den) < den ∨ 2 * (num % den) = den ∧ a % 2 = 0 then a else a + 1
  if fits nearer then some nearer
  else if fits a then some a
  else if fits (a + 1) then some (a + 1)
  else none

/-- Drops zeros at the end, in so many steps at most. -/
def dropZeros : Nat → Nat → Int → Nat × Int
  | 0, n, k => (n, k)
  | steps + 1, n, k => if n % 10 = 0 ∧ n ≠ 0 then dropZeros steps (n / 10) (k + 1) else (n, k)

/-- Tries grids with more and more digits, in so many steps at most. -/
def tryGrids (d : Double) : Nat → Int → Nat × Int
  | 0, power => ((d.onGrid? power).getD 0, power)
  | steps + 1, power =>
    match d.onGrid? power with
    | some n => dropZeros 20 n power
    | none => tryGrids d steps (power - 1)

/-- The most digits that any double needs. -/
def maxDigits : Nat := 17

/-- The shortest decimal that is read back as a double. -/
def shortest (negative : Bool) (d : Double) : Decimal :=
  if d.mantissa = 0 then ⟨negative, 0, 0⟩
  else
    let (n, k) := tryGrids d maxDigits d.magnitude
    ⟨negative, n, k⟩

end Decimal

end FunctionHost
