/-!
# Digits

Natural numbers written in a base up to sixteen and read back. `read?` takes any number of leading
zeros; `digits` writes none, and one digit for zero.
-/

namespace FunctionHost.Text

/-- The lower-case digit of a number below sixteen. -/
def digitChar (n : Nat) : Char := if n < 10 then Char.ofNat (48 + n) else Char.ofNat (87 + n)

/-- The number a digit stands for in a base, in either case of letter. -/
def digitValue? (base : Nat) (c : Char) : Option Nat :=
  let n := c.toNat
  let v := if 48 ≤ n ∧ n ≤ 57 then n - 48
    else if 97 ≤ n ∧ n ≤ 102 then n - 87
    else if 65 ≤ n ∧ n ≤ 70 then n - 55
    else base
  if v < base then some v else none

/-- A number in a base, without leading zeros. -/
def digits (base n : Nat) : List Char :=
  if _h : base < 2 ∨ n < base then [digitChar n]
  else digits base (n / base) ++ [digitChar (n % base)]
termination_by n
decreasing_by exact Nat.div_lt_self (by omega) (by omega)

/-- A number in base ten. -/
def decimal (n : Nat) : List Char := digits 10 n

/-- The number that digits stand for, going on from a number already read. -/
def readFrom? (base : Nat) : Nat → List Char → Option Nat
  | v, [] => some v
  | v, c :: s =>
    match digitValue? base c with
    | some d => readFrom? base (v * base + d) s
    | none => none

/-- The number that one or more digits stand for. -/
def read? (base : Nat) : List Char → Option Nat
  | [] => none
  | s => readFrom? base 0 s

/-- A number in lower-case base sixteen with zeros in front up to four digits. -/
def hex4 (n : Nat) : List Char :=
  [digitChar (n / 4096 % 16), digitChar (n / 256 % 16), digitChar (n / 16 % 16), digitChar (n % 16)]

end FunctionHost.Text
