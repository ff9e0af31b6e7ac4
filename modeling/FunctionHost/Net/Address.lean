import FunctionHost.Text.Digits
/-!
# Socket addresses

An IPv4 or IPv6 address with a port. Reading admits what RFC 4291 writes, with an IPv4 tail and a
numeric scope; printing follows RFC 5952: lower case, the first longest run of two or more zero
groups shortened to `::`, and an IPv4-mapped address with a dotted tail.

The parts of an address are read by functions that give the rest of the text along with the value.
-/

namespace FunctionHost.Net

open FunctionHost.Text

/-- An IPv4 or IPv6 address with a port. -/
inductive Address where
  /-- Four octets and a port. -/
  | v4 (octets : List Nat) (port : Nat)
  /-- Eight groups of sixteen bits, a scope and a port. -/
  | v6 (groups : List Nat) (scope : Nat) (port : Nat)
deriving DecidableEq, Repr

/-- Reads one character. -/
def readChar (c : Char) : List Char → Option (List Char)
  | [] => none
  | a :: s => if a = c then some s else none

/-- A digit of the base. -/
def isDigitOf (base : Nat) (c : Char) : Bool := (digitValue? base c).isSome

/-- Reads a number of any length that is at most `max`. -/
def readNumber (base max : Nat) (s : List Char) : Option (Nat × List Char) := do
  let (ds, rest) := s.span (isDigitOf base)
  let n ← read? base ds
  if n ≤ max then some (n, rest) else none

/-- Reads an octet in at most three digits without a leading zero. -/
def readOctet (s : List Char) : Option (Nat × List Char) := do
  let (ds, rest) := s.span (isDigitOf 10)
  let n ← read? 10 ds
  if n ≤ 255 && ds.length ≤ 3 && (ds.length ≤ 1 || ds.head? != some '0') then some (n, rest)
  else none

/-- Reads four octets with dots between them. -/
def readOctets (s : List Char) : Option (List Nat × List Char) := do
  let (a, s) ← readOctet s
  let s ← readChar '.' s
  let (b, s) ← readOctet s
  let s ← readChar '.' s
  let (c, s) ← readOctet s
  let s ← readChar '.' s
  let (d, s) ← readOctet s
  return ([a, b, c, d], s)

/-- Reads a group of at most four digits. -/
def readGroup (s : List Char) : Option (Nat × List Char) := do
  let (ds, rest) := s.span (isDigitOf 16)
  let n ← read? 16 ds
  if ds.length ≤ 4 then some (n, rest) else none

/-- The two groups that four octets fill. -/
def groupsOfOctets : List Nat → List Nat
  | [a, b, c, d] => [a * 256 + b, c * 256 + d]
  | _ => []

/-- Reads up to `room` groups with colons between them; where two or more are left, an IPv4 address
may end them. Tells whether one did. -/
def readGroups (room : Nat) (first : Bool) (s : List Char) : List Nat × Bool × List Char :=
  match room with
  | 0 => ([], false, s)
  | room + 1 =>
    let start? := if first then some s else readChar ':' s
    match start? with
    | none => ([], false, s)
    | some t =>
      match if room = 0 then none else readOctets t with
      | some (octets, rest) => (groupsOfOctets octets, true, rest)
      | none =>
        match readGroup t with
        | none => ([], false, s)
        | some (g, rest) =>
          let (gs, dotted, rest) := readGroups room false rest
          (g :: gs, dotted, rest)

/-- Reads eight groups, of which one run of zeros may be written `::`. -/
def readGroups8 (s : List Char) : Option (List Nat × List Char) :=
  let (head, dotted, rest) := readGroups 8 true s
  if head.length = 8 then some (head, rest)
  else if dotted then none
  else do
    let rest ← readChar ':' rest
    let rest ← readChar ':' rest
    let (tail, _, rest) := readGroups (7 - head.length) true rest
    return (head ++ List.replicate (8 - head.length - tail.length) 0 ++ tail, rest)

/-- Reads a colon and a port to the end of the text. -/
def readPort (s : List Char) : Option Nat := do
  let s ← readChar ':' s
  let (port, rest) ← readNumber 10 65535 s
  if rest.isEmpty then some port else none

/-- Reads an optional scope, zero if there is none. -/
def readScope (s : List Char) : Option (Nat × List Char) :=
  match readChar '%' s with
  | none => some (0, s)
  | some t => readNumber 10 4294967295 t

/-- Reads an address with a port. -/
def Address.read? (s : String) : Option Address :=
  let v4 : Option Address := do
    let (octets, rest) ← readOctets s.toList
    let port ← readPort rest
    return .v4 octets port
  let v6 : Option Address := do
    let rest ← readChar '[' s.toList
    let (groups, rest) ← readGroups8 rest
    let (scope, rest) ← readScope rest
    let rest ← readChar ']' rest
    let port ← readPort rest
    return .v6 groups scope port
  v4 <|> v6

/-- Texts with a separator between neighbours. -/
def separated (c : Char) : List (List Char) → List Char
  | [] => []
  | [p] => p
  | p :: ps => p ++ c :: separated c ps

/-- Octets with dots. -/
def octetsText (octets : List Nat) : List Char := separated '.' (octets.map decimal)

/-- Groups with colons. -/
def groupsText (groups : List Nat) : List Char := separated ':' (groups.map (digits 16))

/-- The first longest run of zero groups, as its start and its length. The run under way is given
by where it starts and how long it is. -/
def longestRun (i start len : Nat) (best : Nat × Nat) : List Nat → Nat × Nat
  | [] => best
  | g :: gs =>
    if g = 0 then
      let start := if len = 0 then i else start
      let best := if best.2 < len + 1 then (start, len + 1) else best
      longestRun (i + 1) start (len + 1) best gs
    else longestRun (i + 1) 0 0 best gs

/-- The groups of an IPv4-mapped address give its octets. -/
def mappedOctets? : List Nat → Option (List Nat)
  | [0, 0, 0, 0, 0, 65535, a, b] => some [a / 256, a % 256, b / 256, b % 256]
  | _ => none

/-- An IPv6 address in its shortest form. -/
def v6Text (groups : List Nat) : List Char :=
  match mappedOctets? groups with
  | some octets => "::ffff:".toList ++ octetsText octets
  | none =>
    let (start, len) := longestRun 0 0 0 (0, 0) groups
    if 1 < len then
      groupsText (groups.take start) ++ "::".toList ++ groupsText (groups.drop (start + len))
    else groupsText groups

/-- An address with its port; a scope is written if it is not zero. -/
def Address.text : Address → String
  | .v4 octets port => String.ofList (octetsText octets ++ ':' :: decimal port)
  | .v6 groups scope port =>
    let scopeText := if scope = 0 then [] else '%' :: decimal scope
    String.ofList ('[' :: v6Text groups ++ scopeText ++ "]:".toList ++ decimal port)

end FunctionHost.Net
