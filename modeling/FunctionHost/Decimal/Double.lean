/-!
# Numbers with 53 binary digits

A double is a mantissa of at most 53 binary digits times a power of two, with exponents from -1074
to 971. `nearest` rounds a quotient of natural numbers to a double; a quotient halfway between two
doubles goes to the one with the even mantissa.
-/

namespace FunctionHost.Decimal

/-- A double that is not negative. -/
structure Double where
  /-- The mantissa. -/
  mantissa : Nat
  /-- The exponent. -/
  exponent : Int
deriving DecidableEq, Repr

/-- The least exponent. -/
def minExponent : Int := -1074

/-- The greatest exponent. -/
def maxExponent : Int := 971

/-- A power of two by its numerator and its denominator. -/
def powerOfTwo (e : Int) : Nat × Nat := (Nat.pow 2 e.toNat, Nat.pow 2 (-e).toNat)

/-- A quotient rounded to a natural number, a half to the even neighbour. -/
def roundQuotient (num den : Nat) : Nat :=
  let q := num / den
  let r := 2 * (num % den)
  if den < r ∨ r = den ∧ q % 2 = 1 then q + 1 else q

/-- The double nearest to a quotient. Its exponent may be too great. -/
def nearest (num den : Nat) : Double :=
  if num = 0 then ⟨0, minExponent⟩
  else
    let guess : Int := (num.log2 : Int) - den.log2 - 52
    let (up, down) := powerOfTwo guess
    let e := max (if num * down < Nat.pow 2 52 * (den * up) then guess - 1 else guess) minExponent
    let (up, down) := powerOfTwo e
    let m := roundQuotient (num * down) (den * up)
    if m = Nat.pow 2 53 then ⟨Nat.pow 2 52, e + 1⟩ else ⟨m, e⟩

namespace Double

/-- The double is not too great. -/
def isFinite (d : Double) : Bool := d.exponent ≤ maxExponent

/-- The product of two doubles, rounded. -/
def mul (a b : Double) : Double :=
  let (up, down) := powerOfTwo (a.exponent + b.exponent)
  nearest (a.mantissa * b.mantissa * up) down

/-- The quotient of two doubles, rounded. -/
def div (a b : Double) : Double :=
  let (up, down) := powerOfTwo (a.exponent - b.exponent)
  nearest (a.mantissa * up) (b.mantissa * down)

end Double

/-- The greatest power of ten that a double can be near to. -/
def maxPower : Nat := 308

/-- A double divided by a power of ten, in steps of at most `maxPower` places. -/
def divideByPower (f : Double) (k : Nat) : Double :=
  if f.mantissa = 0 then f
  else if _h : k ≤ maxPower then f.div (nearest (Nat.pow 10 k) 1)
  else divideByPower (f.div (nearest (Nat.pow 10 maxPower) 1)) (k - maxPower)
termination_by k
decreasing_by simp only [maxPower] at *; omega

/-- The double for digits times a power of ten: each of the two is rounded, and so is the result.
Nothing, if it would be too great. -/
def scaled? (digits : Nat) (power : Int) : Option Double :=
  let f := nearest digits 1
  if power < 0 then some (divideByPower f (-power).toNat)
  else if f.mantissa = 0 then some f
  else if maxPower < power.toNat then none
  else
    let g := f.mul (nearest (Nat.pow 10 power.toNat) 1)
    if g.isFinite then some g else none

end FunctionHost.Decimal
