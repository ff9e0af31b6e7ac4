import FunctionHost.Json.Value
import FunctionHost.SortedMap
/-!
# Events

The event is what a request becomes for the function: ten fields, written as a JSON object whose
keys stand in a fixed order. A header or a query key has one value or a list of values; the two
maps are kept in ascending order of their keys, without repetition.
-/

namespace FunctionHost

open FunctionHost.Json

/-- The value of a key that occurs once, or the values of one that occurs more often. -/
inductive Values where
  /-- A single value. -/
  | one (v : String)
  /-- A list of values. -/
  | many (vs : List String)
deriving DecidableEq, Repr

/-- A single value stands alone; no value at all gives nothing. -/
def Values.collapse : List String → Option Values
  | [] => none
  | [v] => some (.one v)
  | vs => some (.many vs)

/-- The JSON of one value or of several. -/
def Values.json : Values → Json.Value
  | .one v => .str v
  | .many vs => .arr (vs.map .str)

/-- The values of each key, one or many. -/
def Values.grouped (ps : List (String × String)) : SortedMap Values :=
  (SortedMap.group ps).filterMap fun p => (Values.collapse p.2).map (p.1, ·)

/-- A cookie that a request carries. -/
structure Cookie where
  /-- The name, never empty in a request. -/
  name : String
  /-- The value. -/
  value : String
deriving DecidableEq, Repr

/-- What a function is given. -/
structure Event where
  /-- The id of the request. -/
  requestId : String := ""
  /-- The method. -/
  method : String := ""
  /-- The path. -/
  path : String := ""
  /-- The protocol. -/
  proto : String := ""
  /-- The host. -/
  host : String := ""
  /-- Path and query as received. -/
  requestUri : String := ""
  /-- The peer's address and port. -/
  remoteAddrPort : String := ""
  /-- The cookies in the order sent. -/
  cookies : List Cookie := []
  /-- The headers by canonical name. -/
  headers : SortedMap Values := []
  /-- The query by decoded key. -/
  queryParams : SortedMap Values := []
deriving DecidableEq, Repr

/-- The JSON of a cookie. -/
def Cookie.json (c : Cookie) : Json.Value := .obj [("name", .str c.name), ("value", .str c.value)]

/-- The JSON of an event. -/
def Event.json (e : Event) : Json.Value := .obj [
  ("request_id", .str e.requestId),
  ("method", .str e.method),
  ("path", .str e.path),
  ("proto", .str e.proto),
  ("host", .str e.host),
  ("request_uri", .str e.requestUri),
  ("remote_addr_port", .str e.remoteAddrPort),
  ("cookies", .arr (e.cookies.map Cookie.json)),
  ("headers", .obj (e.headers.map fun p => (p.1, p.2.json))),
  ("query_params", .obj (e.queryParams.map fun p => (p.1, p.2.json)))]

end FunctionHost
