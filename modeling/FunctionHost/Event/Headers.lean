import FunctionHost.Event.Basic
import FunctionHost.Http.Header
import FunctionHost.Text.Blank
import FunctionHost.Text.Pieces
/-!
# Headers and cookies of an event

Headers are listed under their canonical name, in which each part between hyphens starts with a
capital. `Cookie` headers are read into cookies instead, and neither they nor `Set-Cookie` are
listed.
-/

namespace FunctionHost

open FunctionHost.Http FunctionHost.Text

/-- Writes letters in canonical case; `up` says whether a part starts here. -/
def canonicalFrom (up : Bool) : List Char → List Char
  | [] => []
  | c :: s => (if up then upperChar c else lowerChar c) :: canonicalFrom (c == '-') s

/-- The canonical form of a header name. -/
def canonicalName (name : String) : String := String.ofList (canonicalFrom true name.toList)

/-- A header that is not listed. -/
def isCookieHeader (h : Header) : Bool := h.name == "cookie" || h.name == "set-cookie"

/-- The headers of an event. -/
def eventHeaders (hs : List Header) : SortedMap Values :=
  Values.grouped ((hs.filter (!isCookieHeader ·)).map fun h => (canonicalName h.name, h.lossyText))

/-- A text without the quotation marks around it, if it has both. -/
def unquote (s : List Char) : List Char :=
  ((after? ['\x22'] s).bind (before? ['\x22'])).getD s

/-- The cookie that a segment of a `Cookie` header gives; without a name it gives none. -/
def cookieOf? (seg : List Char) : Option Cookie :=
  let seg := trim seg
  let (name, value) := (cutAt? '=' seg).getD (seg, [])
  let name := trim name
  if name.isEmpty then none
  else some ⟨String.ofList name, String.ofList (unquote (trim value))⟩

/-- The cookies of one `Cookie` header. -/
def cookiesOfLine (line : List Char) : List Cookie := (cutAll ';' line).filterMap cookieOf?

/-- The cookies of all `Cookie` headers whose value is text, in the order sent. -/
def cookies (hs : List Header) : List Cookie :=
  ((hs.filter (·.name == "cookie")).filterMap Header.text?).flatMap cookiesOfLine

/-- The value of the first `Host` header, if it is text. -/
def hostHeader? (hs : List Header) : Option String :=
  (hs.find? (·.name == "host")).bind fun h => h.text?.map String.ofList

end FunctionHost
