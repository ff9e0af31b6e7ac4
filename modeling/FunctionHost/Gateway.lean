import FunctionHost.Config.Function
import FunctionHost.Event.Request
import FunctionHost.Pool.Action
import FunctionHost.RequestId
/-!
# Serving requests

A gateway stands before a pool. A request whose target the filter rejects is skipped and leaves no
trace. Any other request takes the id that goes with it, or the next one, and its event is
dispatched to the pool. What the pool answers is the response, except that a failure is answered
with 500.
-/

namespace FunctionHost

open FunctionHost.Http

/-- A pool behind a filter, with the numbering of its requests. -/
structure Gateway where
  /-- The filter on targets. -/
  accepts : String → Bool
  /-- The numbering. -/
  ids : RequestId.Counter := {}
  /-- The pool. -/
  pool : Pool

/-- What becomes of a request when it is served. -/
inductive Served where
  /-- The filter rejects it; it keeps the id it came with, if any. -/
  | skipped (requestId : Option String)
  /-- It is dispatched under an id. -/
  | dispatched (requestId : String)
deriving DecidableEq, Repr

/-- The id that goes with a request after it is served. -/
def Served.requestId? : Served → Option String
  | .skipped id => id
  | .dispatched id => some id

/-- What a request is answered if its call ends like this. -/
def Outcome.response : Outcome → Reply
  | .reply r => r
  | .failed _ => .canonical .internalServerError
  | .refused => .canonical .internalServerError

namespace Gateway

/-- The call of a request with an id. -/
def callOf (g : Gateway) (name : String) (r : Request) (requestId remote : String) : Call where
  name := name
  origin := .served requestId
  module := g.pool.settings.module
  handler := g.pool.settings.handler
  event := r.event requestId remote

/-- Serves a request that comes with an id in `slot`, from the peer `remote`. -/
def serve (g : Gateway) (name : String) (r : Request) (slot : Option String) (remote : String) :
    Served × Gateway :=
  if g.accepts r.uri.requestText then
    let (id, ids) := g.ids.obtain slot
    let (_, pool) := g.pool.step (.dispatch (g.callOf name r id remote))
    (.dispatched id, { g with ids := ids, pool := pool })
  else (.skipped slot, { g with pool := { g.pool with effects := [] } })

/-- Does an action on the pool. -/
def step (g : Gateway) (a : Action) : Answer × Gateway :=
  let (answer, pool) := g.pool.step a
  (answer, { g with pool := pool })

end Gateway

end FunctionHost
