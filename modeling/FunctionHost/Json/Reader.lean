import FunctionHost.Text.Pieces
import FunctionHost.Json.Value
import FunctionHost.SortedMap
/-!
# Reading JSON

`Value.read?` reads a JSON text. A number without point and exponent that fits into 64 bits is an
integer; any other number is read as a double and kept as the shortest decimal of it. Every function
here takes a text and gives what it has read together with the rest of the text.
-/

namespace FunctionHost.Json

open FunctionHost.Text

/-- A blank between the parts of a value. -/
def isBlank (c : Char) : Bool := c == ' ' || c == '\t' || c == '\n' || c == '\r'

/-- Drops blanks. -/
def dropBlanks (cs : List Char) : List Char := cs.dropWhile isBlank

/-! ### Strings -/

/-- The characters with a letter of their own after a backslash. -/
def escapes : List (Char × Char) := [
  ('\x22', '\x22'), ('\\', '\\'), ('/', '/'), ('b', '\x08'), ('f', '\x0c'), ('n', '\n'),
  ('r', '\r'), ('t', '\t')]

/-- The number that four digits of base sixteen stand for. -/
def hex4? (a b c d : Char) : Option Nat := read? 16 [a, b, c, d]

/-- The first half of a character above U+FFFF. -/
def isHigh (n : Nat) : Bool := 0xD800 ≤ n && n < 0xDC00

/-- The second half of a character above U+FFFF. -/
def isLow (n : Nat) : Bool := 0xDC00 ≤ n && n < 0xE000

/-- Puts a character before what is read next. -/
def before (c : Char) (r : Option (List Char × List Char)) : Option (List Char × List Char) :=
  r.map fun (s, rest) => (c :: s, rest)

/-- Reads a string after its opening quotation mark. -/
def readChars? : List Char → Option (List Char × List Char)
  | [] => none
  | '\x22' :: cs => some ([], cs)
  | '\\' :: 'u' :: a :: b :: c :: d :: cs =>
    match hex4? a b c d with
    | none => none
    | some n =>
      if isLow n then none
      else if isHigh n then
        match cs with
        | '\\' :: 'u' :: a :: b :: c :: d :: cs =>
          match hex4? a b c d with
          | none => none
          | some m =>
            if isLow m then
              before (Char.ofNat (0x10000 + (n - 0xD800) * 0x400 + (m - 0xDC00))) (readChars? cs)
            else none
        | _ => none
      else before (Char.ofNat n) (readChars? cs)
  | '\\' :: c :: cs =>
    match escapes.lookup c with
    | some d => before d (readChars? cs)
    | none => none
  | '\\' :: [] => none
  | c :: cs => if c.toNat < 0x20 then none else before c (readChars? cs)

/-- Reads a string. -/
def readString? : List Char → Option (String × List Char)
  | '\x22' :: cs => (readChars? cs).map fun (s, rest) => (String.ofList s, rest)
  | _ => none

/-! ### Numbers -/

/-- A digit. -/
def isDigit (c : Char) : Bool := (digitValue? 10 c).isSome

/-- The number of a digit. -/
def digitOf (c : Char) : Nat := (digitValue? 10 c).getD 0

/-- The greatest number of 64 bits. -/
def maxWord : Nat := Nat.pow 2 64 - 1

/-- Digits with the power of ten by which they are multiplied. -/
structure Digits where
  /-- The digits. -/
  value : Nat
  /-- The power of ten. -/
  power : Int

/-- Takes the digits before the point, as long as they fit into 64 bits; further ones only count. -/
def takeWhole (ds : List Char) : Digits :=
  ds.foldl (fun (n : Digits) c =>
    if n.power = 0 ∧ n.value * 10 + digitOf c ≤ maxWord then ⟨n.value * 10 + digitOf c, 0⟩
    else ⟨n.value, n.power + 1⟩) ⟨0, 0⟩

/-- Takes the digits after the point, as long as they fit into 64 bits. -/
def takeFraction (n : Digits) : List Char → Digits
  | [] => n
  | c :: cs =>
    if n.value * 10 + digitOf c ≤ maxWord then
      takeFraction ⟨n.value * 10 + digitOf c, n.power - 1⟩ cs
    else n

/-- Reads the digits before a point or an exponent: a zero stands alone. -/
def readWhole? (cs : List Char) : Option (List Char × List Char) :=
  match cs with
  | '0' :: rest => if rest.head?.any isDigit then none else some (['0'], rest)
  | _ =>
    let ds := cs.takeWhile isDigit
    if ds.isEmpty then none else some (ds, cs.dropWhile isDigit)

/-- Reads a point with at least one digit after it. -/
def readFraction? (cs : List Char) : Option (Option (List Char) × List Char) :=
  match cs with
  | '.' :: cs =>
    let ds := cs.takeWhile isDigit
    if ds.isEmpty then none else some (some ds, cs.dropWhile isDigit)
  | cs => some (none, cs)

/-- Reads an exponent. -/
def readExponent? (cs : List Char) : Option (Option Int × List Char) :=
  let read := fun (negative : Bool) (cs : List Char) =>
    let ds := cs.takeWhile isDigit
    if ds.isEmpty then none
    else
      let n : Int := ds.foldl (fun n c => n * 10 + digitOf c) (0 : Nat)
      some (some (if negative then -n else n), cs.dropWhile isDigit)
  match cs with
  | 'e' :: '+' :: cs => read false cs
  | 'e' :: '-' :: cs => read true cs
  | 'e' :: cs => read false cs
  | 'E' :: '+' :: cs => read false cs
  | 'E' :: '-' :: cs => read true cs
  | 'E' :: cs => read false cs
  | cs => some (none, cs)

/-- A number that is read as a double. -/
def double? (negative : Bool) (n : Digits) : Option Value :=
  (Decimal.scaled? n.value n.power).map fun d => .decimal (Decimal.shortest negative d)

/-- The value of a number. Zero with a minus sign is no integer. -/
def numberOf? (negative : Bool) (whole : List Char) (fraction : Option (List Char))
    (exponent : Option Int) : Option Value :=
  let n := takeWhole whole
  match fraction, exponent with
  | none, none =>
    if n.power ≠ 0 then double? negative n
    else if !negative then some (.int n.value)
    else if n.value = 0 ∨ Nat.pow 2 63 < n.value then double? true n
    else some (.int (-n.value))
  | fraction, exponent =>
    let n := takeFraction n (fraction.getD [])
    double? negative { n with power := n.power + exponent.getD 0 }

/-- Reads a number. -/
def readNumber? (cs : List Char) : Option (Value × List Char) := do
  let (negative, cs) := match cs with
    | '-' :: cs => (true, cs)
    | cs => (false, cs)
  let (whole, cs) ← readWhole? cs
  let (fraction, cs) ← readFraction? cs
  let (exponent, cs) ← readExponent? cs
  return (← numberOf? negative whole fraction exponent, cs)

/-! ### Values -/

/-- Reads a given word. -/
def readWord? (word : String) (v : Value) (cs : List Char) : Option (Value × List Char) :=
  (after? word.toList cs).map fun rest => (v, rest)

mutual

/-- Reads a value in so many steps at most. -/
def readValue? : Nat → List Char → Option (Value × List Char)
  | 0, _ => none
  | steps + 1, cs =>
    match dropBlanks cs with
    | '\x22' :: cs => (readString? ('\x22' :: cs)).map fun (s, rest) => (.str s, rest)
    | '[' :: cs =>
      match dropBlanks cs with
      | ']' :: cs => some (.arr [], cs)
      | cs => (readElements? steps cs).map fun (vs, rest) => (.arr vs, rest)
    | '\x7b' :: cs =>
      match dropBlanks cs with
      | '\x7d' :: cs => some (.obj [], cs)
      | cs => (readMembers? steps cs).map fun (ms, rest) => (.obj ms, rest)
    | 'n' :: cs => readWord? "null" .null ('n' :: cs)
    | 't' :: cs => readWord? "true" (.bool true) ('t' :: cs)
    | 'f' :: cs => readWord? "false" (.bool false) ('f' :: cs)
    | cs => readNumber? cs

/-- Reads one or more elements up to the closing bracket. -/
def readElements? : Nat → List Char → Option (List Value × List Char)
  | 0, _ => none
  | steps + 1, cs => do
    let (v, cs) ← readValue? steps cs
    match dropBlanks cs with
    | ']' :: cs => return ([v], cs)
    | ',' :: cs =>
      let (vs, cs) ← readElements? steps cs
      return (v :: vs, cs)
    | _ => none

/-- Reads one or more members up to the closing brace. -/
def readMembers? : Nat → List Char → Option (List (String × Value) × List Char)
  | 0, _ => none
  | steps + 1, cs => do
    let (k, cs) ← readString? (dropBlanks cs)
    match dropBlanks cs with
    | ':' :: cs =>
      let (v, cs) ← readValue? steps cs
      match dropBlanks cs with
      | '\x7d' :: cs => return ([(k, v)], cs)
      | ',' :: cs =>
        let (ms, cs) ← readMembers? steps cs
        return ((k, v) :: ms, cs)
      | _ => none
    | _ => none

end

/-- Reads a JSON text. -/
def Value.read? (text : String) : Option Value := do
  let cs := text.toList
  let (v, rest) ← readValue? (2 * cs.length + 2) cs
  if (dropBlanks rest).isEmpty then some v else none

/-! ### Sorted members -/

mutual

/-- A value in which the members of objects stand in ascending order of their keys; of members with
one key the last counts. -/
def Value.sorted : Value → Value
  | .arr vs => .arr (sortedAll vs)
  | .obj ms => .obj (SortedMap.ofList (sortedMembers ms))
  | v => v

/-- Sorts the members in several values. -/
def sortedAll : List Value → List Value
  | [] => []
  | v :: vs => v.sorted :: sortedAll vs

/-- Sorts the members in the values of several members. -/
def sortedMembers : List (String × Value) → List (String × Value)
  | [] => []
  | (k, v) :: ms => (k, v.sorted) :: sortedMembers ms

end

/-- The member of an object with a key. -/
def Value.member? (v : Value) (key : String) : Option Value :=
  match v with
  | .obj ms => ms.lookup key
  | _ => none

end FunctionHost.Json
