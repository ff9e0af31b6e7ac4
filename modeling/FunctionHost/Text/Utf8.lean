/-!
# UTF-8

Characters as bytes and back. `encode` writes every character in its shortest form. `decodeLossy`
reads any bytes: each maximal piece that starts a character without completing it, and each byte
that starts none, gives one U+FFFD. `decode?` refuses instead.

Reading is a machine that takes one byte at a time (`step`) and remembers the character under way
(`State`), so bytes that arrive in pieces are read as they are read together.
-/

namespace FunctionHost.Text.Utf8

/-- What stands for bytes that are no character. -/
def replacement : Char := '\ufffd'

/-- The bytes of a text. -/
def encode (cs : List Char) : List UInt8 := cs.flatMap String.utf8EncodeChar

/-- A character whose first bytes have been read. -/
structure Partial where
  /-- Bytes still to come, one more than this. -/
  more : Nat
  /-- The least byte that may come next. -/
  low : Nat
  /-- The greatest byte that may come next. -/
  high : Nat
  /-- The bits read so far. -/
  value : Nat
deriving DecidableEq, Repr

/-- Between two characters, or inside one. -/
abbrev State := Option Partial

/-- What a first byte begins: a whole character, a longer one, or none. -/
inductive Opening where
  /-- The byte is a character of its own. -/
  | whole (c : Char)
  /-- More bytes follow. -/
  | opens (p : Partial)
  /-- No character starts like this. -/
  | nothing
deriving DecidableEq, Repr

/-- Reads a first byte. The bounds on the second byte exclude over-long forms, surrogates and
numbers above U+10FFFF. -/
def opening (b : Nat) : Opening :=
  if b < 0x80 then .whole (Char.ofNat b)
  else if b < 0xC2 then .nothing
  else if b < 0xE0 then .opens ⟨0, 0x80, 0xBF, b - 0xC0⟩
  else if b = 0xE0 then .opens ⟨1, 0xA0, 0xBF, 0⟩
  else if b = 0xED then .opens ⟨1, 0x80, 0x9F, 0xD⟩
  else if b < 0xF0 then .opens ⟨1, 0x80, 0xBF, b - 0xE0⟩
  else if b = 0xF0 then .opens ⟨2, 0x90, 0xBF, 0⟩
  else if b < 0xF4 then .opens ⟨2, 0x80, 0xBF, b - 0xF0⟩
  else if b = 0xF4 then .opens ⟨2, 0x80, 0x8F, 4⟩
  else .nothing

/-- The characters that a first byte completes, and the state after it. -/
def stepFirst (b : Nat) : List Char × State :=
  match opening b with
  | .whole c => ([c], none)
  | .opens p => ([], some p)
  | .nothing => ([replacement], none)

/-- The characters that a byte completes, and the state after it. A byte that does not go on with
the character under way replaces that character and begins anew. -/
def step (s : State) (byte : UInt8) : List Char × State :=
  let b := byte.toNat
  match s with
  | none => stepFirst b
  | some p =>
    if p.low ≤ b ∧ b ≤ p.high then
      let value := p.value * 64 + (b - 0x80)
      match p.more with
      | 0 => ([Char.ofNat value], none)
      | more + 1 => ([], some ⟨more, 0x80, 0xBF, value⟩)
    else
      let (cs, s) := stepFirst b
      (replacement :: cs, s)

/-- What the end of the bytes makes of a character under way. -/
def finish : State → List Char
  | none => []
  | some _ => [replacement]

/-- The characters of bytes that follow a state. -/
def decodeFrom (s : State) : List UInt8 → List Char
  | [] => finish s
  | b :: bs =>
    let (cs, s) := step s b
    cs ++ decodeFrom s bs

/-- The text of any bytes, with U+FFFD for what is no character. -/
def decodeLossy (bs : List UInt8) : List Char := decodeFrom none bs

/-- The text of bytes that are the encoding of one. -/
def decode? (bs : List UInt8) : Option (List Char) :=
  let cs := decodeLossy bs
  if encode cs = bs then some cs else none

end FunctionHost.Text.Utf8
