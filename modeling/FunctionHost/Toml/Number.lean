import FunctionHost.Decimal.Double
import FunctionHost.Text.Digits
import FunctionHost.Text.Pieces
/-!
# Numbers of TOML

Integers have 64 bits and are written in base ten, sixteen, eight or two. Floats are written with a
fraction or a power of ten, or by a word. Low lines may stand between digits.

`readInteger?` and `readFloat?` read a number at the beginning of a text and give the rest of the
text along with it.
-/

namespace FunctionHost.Toml

open FunctionHost.Text

/-! ### Digits -/

/-- Reads further digits and drops the low lines between them; a digit follows every low line. -/
def restOfDigits? (base : Nat) : List Char → Option (List Char × List Char)
  | [] => some ([], [])
  | '_' :: [] => none
  | '_' :: c :: cs =>
    if (digitValue? base c).isSome then
      (restOfDigits? base cs).map fun (ds, rest) => (c :: ds, rest)
    else none
  | c :: cs =>
    if (digitValue? base c).isSome then
      (restOfDigits? base cs).map fun (ds, rest) => (c :: ds, rest)
    else some ([], c :: cs)

/-- Reads one or more digits and drops the low lines between them. -/
def readDigits? (base : Nat) : List Char → Option (List Char × List Char)
  | [] => none
  | c :: cs =>
    if (digitValue? base c).isSome then
      (restOfDigits? base cs).map fun (ds, rest) => (c :: ds, rest)
    else none

/-- Reads the digits of a whole number in base ten. A zero at the beginning stands alone. -/
def readWhole? (cs : List Char) : Option (List Char × List Char) :=
  match cs with
  | '0' :: rest => some (['0'], rest)
  | _ => readDigits? 10 cs

/-- Reads a sign, which may be missing: whether it is a minus sign. -/
def readSign : List Char → Bool × List Char
  | '-' :: cs => (true, cs)
  | '+' :: cs => (false, cs)
  | cs => (false, cs)

/-- A number with a sign. -/
def signed (negative : Bool) (n : Nat) : Int := if negative then -n else n

/-! ### Integers -/

/-- An integer of 64 bits. -/
def ofRange? (n : Int) : Option Int := 
  if -Int.pow 2 63 ≤ n ∧ n < Int.pow 2 63 then some n else none

/-- Reads a number in a base, without a sign. -/
def readBased? (base : Nat) (cs : List Char) : Option (Int × List Char) := do
  let (ds, rest) ← readDigits? base cs
  return (← ofRange? (← read? base ds : Nat), rest)

/-- Reads an integer: in base sixteen, eight or two without a sign, or in base ten. -/
def readInteger? (cs : List Char) : Option (Int × List Char) :=
  match cs with
  | '0' :: 'x' :: cs => readBased? 16 cs
  | '0' :: 'o' :: cs => readBased? 8 cs
  | '0' :: 'b' :: cs => readBased? 2 cs
  | cs => do
    let (negative, cs) := readSign cs
    let (ds, rest) ← readWhole? cs
    return (← ofRange? (signed negative (← read? 10 ds)), rest)

/-! ### Floats -/

/-- A float. -/
inductive Floating where
  /-- A double with its sign. -/
  | finite (negative : Bool) (d : Decimal.Double)
  /-- Infinity. -/
  | infinite (negative : Bool)
  /-- What is no number. -/
  | notNumber
deriving Repr

/-- More places than any double has before or after its point. -/
def manyPlaces : Int := 400

/-- The double nearest to digits times a power of ten, if it is not too great. -/
def nearestDouble? (digits : Nat) (power : Int) : Option Decimal.Double :=
  let top := (decimal digits).length + power
  if digits = 0 ∨ top < -manyPlaces then some (Decimal.nearest 0 1)
  else if manyPlaces < top then none
  else
    let d := Decimal.nearest (digits * Nat.pow 10 power.toNat) (Nat.pow 10 (-power).toNat)
    if d.isFinite then some d else none

/-- The float for digits times a power of ten. One that is too great is refused, and one that is too
small is infinite. -/
def Floating.ofDecimal? (negative : Bool) (digits : Nat) (power : Int) : Option Floating :=
  match nearestDouble? digits power with
  | some d => some (.finite negative d)
  | none => if negative then some (.infinite true) else none

/-- Reads the digits after a point, which may be missing with its digits. -/
def readFraction? : List Char → Option (List Char × List Char)
  | '.' :: cs => readDigits? 10 cs
  | cs => some ([], cs)

/-- Reads a power of ten, which may be missing. -/
def readPower? : List Char → Option (Option Int × List Char)
  | c :: cs =>
    if c = 'e' ∨ c = 'E' then do
      let (negative, cs) := readSign cs
      let (ds, rest) ← readDigits? 10 cs
      return (some (signed negative (← read? 10 ds)), rest)
    else some (none, c :: cs)
  | [] => some (none, [])

/-- Reads a float after its sign. -/
def readMagnitude? (negative : Bool) (cs : List Char) : Option (Floating × List Char) := do
  let (whole, cs) ← readWhole? cs
  let (fraction, cs) ← readFraction? cs
  let (power, cs) ← readPower? cs
  if fraction.isEmpty ∧ power.isNone then none
  else
    let digits ← read? 10 (whole ++ fraction)
    return (← Floating.ofDecimal? negative digits (power.getD 0 - fraction.length), cs)

/-- Reads a float. -/
def readFloat? (cs : List Char) : Option (Floating × List Char) :=
  let (negative, cs) := readSign cs
  match after? "inf".toList cs, after? "nan".toList cs with
  | some rest, _ => some (.infinite negative, rest)
  | none, some rest => some (.notNumber, rest)
  | none, none => readMagnitude? negative cs

end FunctionHost.Toml
