import FunctionHost.Http.Token
import FunctionHost.Text.Utf8
/-!
# Methods and versions

A method is any token. A version is one of the five that have a protocol text.
-/

namespace FunctionHost.Http

open FunctionHost.Text

/-- The text is a method. -/
def isMethod (s : String) : Bool :=
  let bs := Utf8.encode s.toList
  !bs.isEmpty && bs.all (isTokenChar ·.toNat)

/-- The version of a request. -/
inductive Version where
  /-- HTTP/0.9 -/
  | v09
  /-- HTTP/1.0 -/
  | v10
  /-- HTTP/1.1 -/
  | v11
  /-- HTTP/2.0 -/
  | v2
  /-- HTTP/3.0 -/
  | v3
deriving DecidableEq, Repr

/-- The protocol as a request line writes it. -/
def Version.protocol : Version → String
  | .v09 => "HTTP/0.9"
  | .v10 => "HTTP/1.0"
  | .v11 => "HTTP/1.1"
  | .v2 => "HTTP/2.0"
  | .v3 => "HTTP/3.0"

end FunctionHost.Http
