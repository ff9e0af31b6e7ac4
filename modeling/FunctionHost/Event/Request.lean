import FunctionHost.Event.Headers
import FunctionHost.Event.Query
import FunctionHost.Http.Method
import FunctionHost.Http.Uri
import FunctionHost.Net.Address
/-!
# The event of a request

A request is a method, a target, a version and headers. Its event takes the host from the `Host`
header, else from the authority of the target.
-/

namespace FunctionHost

open FunctionHost.Http

/-- The head of a request. -/
structure Request where
  /-- The method, a token. -/
  method : String
  /-- The target. -/
  uri : Uri
  /-- The version. -/
  version : Version := .v11
  /-- The headers in the order sent. -/
  headers : List Header := []
deriving Repr

/-- Why a request cannot be built. -/
inductive RequestError where
  /-- The method is no token. -/
  | method
  /-- The target cannot be read. -/
  | uri
  /-- A header is refused. -/
  | header (e : HeaderError)
  /-- The peer's address cannot be read. -/
  | remote
deriving DecidableEq, Repr

/-- Builds a request from what is written; the method is checked first, then the target, then the
headers. -/
def Request.ofText? (method uri : String) (version : Version)
    (headers : List (List UInt8 × List UInt8)) : Except RequestError Request := do
  if !isMethod method then throw .method
  let uri ← match Uri.read? uri with
    | some u => pure u
    | none => throw .uri
  let headers ← (Header.ofPairs? headers).mapError .header
  return { method, uri, version, headers }

/-- The peer's address of a request, if one is written. -/
def readRemote? (remote : Option String) : Except RequestError (Option Net.Address) :=
  match remote with
  | none => .ok none
  | some s =>
    match Net.Address.read? s with
    | some a => .ok (some a)
    | none => .error .remote

/-- The event of a request with an id and the peer's address as text. -/
def Request.event (r : Request) (requestId remote : String) : Event where
  requestId := requestId
  method := r.method
  path := r.uri.path
  proto := r.version.protocol
  host := ((hostHeader? r.headers).or r.uri.authority?).getD ""
  requestUri := r.uri.requestText
  remoteAddrPort := remote
  cookies := cookies r.headers
  headers := eventHeaders r.headers
  queryParams := Query.params r.uri.query?

end FunctionHost
