import FunctionHost.Gateway
import FunctionHost.Server.Body
/-!
# Answers over HTTP

A request whose body is larger than the limit is refused before anything else happens. Otherwise
the body is thrown away and the request is served; what the gateway skips is not found. On the wire
the answer to `HEAD` keeps its length and loses its body, and an answer with status 204 or 304 has
neither.
-/

namespace FunctionHost

open FunctionHost.Http

/-- A gateway that is reached over HTTP. -/
structure Server where
  /-- The gateway. -/
  gateway : Gateway
  /-- The largest body, in bytes. -/
  maxBodyBytes : Nat

/-- How a request is answered. -/
inductive Answered where
  /-- At once. -/
  | now (r : Reply)
  /-- When the call with this id has ended. -/
  | later (requestId : String)
deriving DecidableEq, Repr

/-- Receives a request with its body. -/
def Server.receive (s : Server) (name : String) (r : Request) (b : Body) (remote : String) :
    Answered × Server :=
  if b.tooLarge s.maxBodyBytes then (.now (.canonical .payloadTooLarge), s)
  else
    match s.gateway.serve name r none remote with
    | (.skipped _, g) => (.now (.canonical .notFound), { s with gateway := g })
    | (.dispatched id, g) => (.later id, { s with gateway := g })

/-- What is sent for a reply. -/
structure Sent where
  /-- The status. -/
  status : Status
  /-- The announced length, if there is one. -/
  contentLength : Option Nat
  /-- The body. -/
  body : String
deriving DecidableEq, Repr

/-- A status whose responses have no content. -/
def hasNoContent (s : Status) : Bool := s.code == 204 || s.code == 304

/-- What is sent for a reply to a request with a method. -/
def Reply.sent (r : Reply) (method : String) : Sent :=
  if hasNoContent r.status then ⟨r.status, none, ""⟩
  else ⟨r.status, some r.body.utf8ByteSize, if method = "HEAD" then "" else r.body⟩

end FunctionHost
