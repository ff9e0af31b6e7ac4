import FunctionHost.Decimal.Shortest
import FunctionHost.Text.Digits
/-!
# JSON values and their compact text

A value is written on one line without blanks. Of a string only the quotation mark, the backslash
and the control characters below U+0020 are escaped; the members of an object are written in the
order in which they stand. A number that is no integer is written with a point or an exponent:
positionally if its point stands among the first sixteen digits or after at most five zeros.
-/

namespace FunctionHost.Json

open FunctionHost.Text

/-- A JSON value. -/
inductive Value where
  /-- The null value. -/
  | null
  /-- A truth value. -/
  | bool (b : Bool)
  /-- An integer. -/
  | int (n : Int)
  /-- A number that is not written as an integer. -/
  | decimal (d : Decimal)
  /-- A string. -/
  | str (s : String)
  /-- An array. -/
  | arr (vs : List Value)
  /-- An object with its members in writing order. -/
  | obj (ms : List (String × Value))
deriving Repr, Inhabited

/-- A character as it stands inside a string. -/
def escape (c : Char) : List Char :=
  if c = '\x22' then ['\\', '\x22']
  else if c = '\\' then ['\\', '\\']
  else if c = '\x08' then ['\\', 'b']
  else if c = '\t' then ['\\', 't']
  else if c = '\n' then ['\\', 'n']
  else if c = '\x0c' then ['\\', 'f']
  else if c = '\r' then ['\\', 'r']
  else if c.toNat < 0x20 then '\\' :: 'u' :: hex4 c.toNat
  else [c]

/-- A string literal. -/
def literalChars (s : List Char) : List Char := '\x22' :: s.flatMap escape ++ ['\x22']

/-- A string literal. -/
def literal (s : String) : String := String.ofList (literalChars s.toList)

/-- Parts with a comma between neighbours. -/
def commas : List (List Char) → List Char
  | [] => []
  | [p] => p
  | p :: ps => p ++ ',' :: commas ps

/-- An integer in base ten. -/
def intChars (n : Int) : List Char :=
  if n < 0 then '-' :: decimal n.natAbs else decimal n.natAbs

/-- An exponent, always with its sign. -/
def exponentChars (e : Int) : List Char :=
  if e < 0 then 'e' :: intChars e else 'e' :: '+' :: intChars e

/-- The absolute value of a decimal. -/
def magnitudeChars (d : Decimal) : List Char :=
  let ds := decimal d.digits
  let point : Int := ds.length + d.scale
  if d.digits = 0 then "0.0".toList
  else if 0 ≤ d.scale ∧ point ≤ 16 then ds ++ List.replicate d.scale.toNat '0' ++ ['.', '0']
  else if 0 < point ∧ point ≤ 16 then ds.take point.toNat ++ '.' :: ds.drop point.toNat
  else if -5 < point ∧ point ≤ 0 then
    '0' :: '.' :: List.replicate (-point).toNat '0' ++ ds
  else
    match ds with
    | [c] => c :: exponentChars (point - 1)
    | ds => ds.take 1 ++ '.' :: ds.drop 1 ++ exponentChars (point - 1)

/-- A decimal with its sign. -/
def decimalChars (d : Decimal) : List Char :=
  if d.negative then '-' :: magnitudeChars d else magnitudeChars d

mutual

/-- The compact text of a value. -/
def Value.chars : Value → List Char
  | .null => "null".toList
  | .bool b => if b then "true".toList else "false".toList
  | .int n => intChars n
  | .decimal d => decimalChars d
  | .str s => literalChars s.toList
  | .arr vs => '[' :: commas (elementChars vs) ++ [']']
  | .obj ms => '\x7b' :: commas (memberChars ms) ++ ['\x7d']

/-- The texts of the elements of an array. -/
def elementChars : List Value → List (List Char)
  | [] => []
  | v :: vs => v.chars :: elementChars vs

/-- The texts of the members of an object. -/
def memberChars : List (String × Value) → List (List Char)
  | [] => []
  | (k, v) :: ms => (literalChars k.toList ++ ':' :: v.chars) :: memberChars ms

end

/-- The compact text of a value. -/
def Value.text (v : Value) : String := String.ofList v.chars

end FunctionHost.Json
