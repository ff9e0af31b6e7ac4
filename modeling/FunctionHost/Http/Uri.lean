import FunctionHost.Http.Token
import FunctionHost.Text.Pieces
import FunctionHost.Text.Utf8
/-!
# Request targets

A target is a path with an optional query (`/a?b`), the asterisk, an absolute form with a scheme
and an authority (`s://h/a?b`), or an authority alone (`h:80`). `Uri.read?` works on the bytes
of the text and drops a fragment.
-/

namespace FunctionHost.Http

open FunctionHost.Text

/-- A request target. -/
structure Uri where
  /-- The scheme of an absolute form. -/
  scheme : Option (List UInt8)
  /-- The authority as written, empty if there is none. -/
  authority : List UInt8
  /-- Path and query as written, without the fragment; the path of an absolute form may be empty. -/
  target : List UInt8
deriving DecidableEq, Repr

namespace Uri

/-- The longest text that is read, in bytes. -/
def maxLength : Nat := 65534

/-- The longest scheme. -/
def maxSchemeLength : Nat := 64

/-- A byte of a scheme. -/
def isSchemeByte (b : UInt8) : Bool :=
  let n := b.toNat
  isLetter n || isDigit n || n == 43 || n == 45 || n == 46 || n == 126

/-- A byte of a path: visible ASCII but `#`, `<`, `>`, `?` and the grave accent, or part of a longer
character. -/
def isPathByte (b : UInt8) : Bool :=
  let n := b.toNat
  128 ≤ n || (33 ≤ n && n ≤ 126 && !([35, 60, 62, 63, 96].contains n))

/-- A byte of a query: visible ASCII but the quotation mark, `#`, `<` and `>`, or part of a longer
character. -/
def isQueryByte (b : UInt8) : Bool :=
  let n := b.toNat
  128 ≤ n || (33 ≤ n && n ≤ 126 && !([34, 35, 60, 62].contains n))

/-- A byte of an authority that has no meaning of its own there. -/
def isPlainAuthorityByte (b : UInt8) : Bool :=
  let n := b.toNat
  isLetter n || isDigit n ||
    [33, 36, 38, 39, 40, 41, 42, 43, 44, 45, 46, 59, 61, 95, 126].contains n

/-- A byte that ends an authority: `/`, `?` or `#`. -/
def endsAuthority (b : UInt8) : Bool := b == 47 || b == 63 || b == 35

/-- What has been seen of an authority. -/
structure Authority where
  /-- Colons since the last `@` or `]`. -/
  colons : Nat := 0
  /-- A `[` was seen. -/
  opened : Bool := false
  /-- A `]` was seen. -/
  closed : Bool := false
  /-- A percent sign was seen since the last `@` or `]`. -/
  percent : Bool := false
  /-- The last byte was `@`. -/
  endsInAt : Bool := false

/-- Takes one more byte of an authority. At most eight colons stand together, the brackets of an
address occur once, and a percent sign may not precede them. -/
def Authority.step? (a : Authority) (b : UInt8) : Option Authority :=
  let a := { a with endsInAt := false }
  if b == 58 then if 8 ≤ a.colons then none else some { a with colons := a.colons + 1 }
  else if b == 91 then
    if a.percent || a.opened then none else some { a with opened := true }
  else if b == 93 then
    if !a.opened || a.closed then none
    else some { a with closed := true, colons := 0, percent := false }
  else if b == 64 then some { a with colons := 0, percent := false, endsInAt := true }
  else if b == 37 then some { a with percent := true }
  else if isPlainAuthorityByte b then some a
  else none

/-- An authority may end here: brackets closed, one colon at most, no percent sign in the host, and
something after an `@`. -/
def Authority.mayEnd (a : Authority) : Bool :=
  a.opened == a.closed && a.colons ≤ 1 && !a.endsInAt && !a.percent

/-- Checks an authority. -/
def authorityOk (bs : List UInt8) : Bool :=
  match bs.foldlM Authority.step? {} with
  | some a => a.mayEnd
  | none => false

/-- Path and query without the fragment, if all bytes are admitted. -/
def target? (bs : List UInt8) : Option (List UInt8) :=
  let (path, rest) := bs.span isPathByte
  match rest with
  | [] => some path
  | b :: rest =>
    if b == 35 then some path
    else if b == 63 then
      let (query, rest) := rest.span isQueryByte
      match rest with
      | [] => some (path ++ 63 :: query)
      | b :: _ => if b == 35 then some (path ++ 63 :: query) else none
    else none

/-- Takes off a scheme and the `://` after it; `none` if the scheme is too long. -/
def splitScheme (bs : List UInt8) : Option (Option (List UInt8) × List UInt8) :=
  let (scheme, rest) := bs.span isSchemeByte
  match rest with
  | 58 :: 47 :: 47 :: rest =>
    if maxSchemeLength < scheme.length then none else some (some scheme, rest)
  | _ => some (none, bs)

/-- Reads the bytes of a target. -/
def ofBytes? (bs : List UInt8) : Option Uri :=
  if maxLength < bs.length then none
  else match bs with
  | [] => none
  | [42] => some ⟨none, [], [42]⟩
  | 47 :: _ => (target? bs).map fun t => ⟨none, [], t⟩
  | _ => do
    let (scheme, rest) ← splitScheme bs
    let (authority, rest) := rest.span fun b => !endsAuthority b
    if !authorityOk authority then none
    else match scheme with
      | none => if rest.isEmpty then some ⟨none, authority, []⟩ else none
      | some _ =>
        if authority.isEmpty then none
        else (target? rest).map fun t => ⟨scheme, authority, t⟩

/-- Reads a target. -/
def read? (s : String) : Option Uri := ofBytes? (Utf8.encode s.toList)

/-- Bytes as text. -/
def textOf (bs : List UInt8) : String := String.ofList (Utf8.decodeLossy bs)

/-- The target has no path of its own: it is an authority alone. -/
def isAuthorityForm (u : Uri) : Bool := u.scheme.isNone && !u.authority.isEmpty

/-- The path; that of an absolute form is `/` if it is written empty, and an authority alone has
none. -/
def path (u : Uri) : String :=
  if u.isAuthorityForm then ""
  else
    let p := u.target.takeWhile (· != 63)
    if p.isEmpty then "/" else textOf p

/-- The query, if there is a question mark. -/
def query? (u : Uri) : Option String :=
  match u.target.dropWhile (· != 63) with
  | [] => none
  | _ :: q => some (textOf q)

/-- Path and query as written, `/` if both are missing; an authority alone has none. -/
def requestText (u : Uri) : String :=
  if u.isAuthorityForm then ""
  else if u.target.isEmpty then "/" else textOf u.target

/-- The authority as written, if there is one. -/
def authority? (u : Uri) : Option String :=
  if u.authority.isEmpty then none else some (textOf u.authority)

end Uri

end FunctionHost.Http
