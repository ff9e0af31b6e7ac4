import FunctionHost.Http.Token
import FunctionHost.Text.Utf8
/-!
# Header fields

A field has a name, kept in lower case, and a value of bytes. `Header.ofBytes?` says which name and
value bytes are admitted; the fields of a request stand in the order in which they were added.
-/

namespace FunctionHost.Http

open FunctionHost.Text

/-- A header field with its name in lower case. -/
structure Header where
  /-- The name, a token in lower case. -/
  name : String
  /-- The bytes of the value. -/
  value : List UInt8
deriving DecidableEq, Repr

/-- Why a field is refused. -/
inductive HeaderError where
  /-- The name is no token. -/
  | name
  /-- The value holds a control character other than TAB. -/
  | value
deriving DecidableEq, Repr

namespace Header

/-- The longest name that is admitted. -/
def maxNameLength : Nat := 65535

/-- A byte that a value may hold. -/
def isValueByte (b : UInt8) : Bool := (32 ≤ b && b != 127) || b == 9

/-- The field with a name and a value given as bytes; the name is checked first. -/
def ofBytes? (name value : List UInt8) : Except HeaderError Header :=
  if name.isEmpty || maxNameLength < name.length || !name.all (isTokenChar ·.toNat) then
    .error .name
  else if !value.all isValueByte then .error .value
  else .ok ⟨String.ofList (lower (name.map fun b => Char.ofNat b.toNat)), value⟩

/-- A byte of a value that counts as text. -/
def isTextByte (b : UInt8) : Bool := (32 ≤ b && b < 127) || b == 9

/-- The value as text, if it is all visible ASCII, blanks and TABs. -/
def text? (h : Header) : Option (List Char) :=
  if h.value.all isTextByte then some (h.value.map fun b => Char.ofNat b.toNat) else none

/-- The value as text, with U+FFFD for what is not UTF-8. -/
def lossyText (h : Header) : String := String.ofList (Utf8.decodeLossy h.value)

end Header

/-- Reads a list of fields; the first refusal counts. -/
def Header.ofPairs? : List (List UInt8 × List UInt8) → Except HeaderError (List Header)
  | [] => .ok []
  | (n, v) :: ps => do
    let h ← Header.ofBytes? n v
    let hs ← Header.ofPairs? ps
    return h :: hs

end FunctionHost.Http
