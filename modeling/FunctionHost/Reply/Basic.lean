import FunctionHost.Http.Status
/-!
# Replies and the markers around them

A reply is a status and a body. The interpreter's output has no framing of its own: a line with the
start marker of a request and a line with its end marker enclose the reply, a status line and body
lines stand between them.
-/

namespace FunctionHost

open FunctionHost.Http

/-- What a function answers. -/
structure Reply where
  /-- The status. -/
  status : Status
  /-- The body. -/
  body : String
deriving DecidableEq, Repr

/-- The reply whose body is the reason phrase of its status. -/
def Reply.canonical (s : Status) : Reply := ⟨s, s.reason⟩

namespace Marker

/-- What a start marker begins with. -/
def startTag : String := "CMD_OUTPUT_START="

/-- What an end marker begins with. -/
def endTag : String := "CMD_OUTPUT_END="

/-- What a status line begins with. -/
def statusTag : String := "CMD_STATUS_CODE="

/-- What a body line begins with. -/
def bodyTag : String := "CMD_OUTPUT_BODY="

/-- The start marker of a request. -/
def start (requestId : String) : String := startTag ++ requestId ++ ";"

/-- The end marker of a request. -/
def finish (requestId : String) : String := endTag ++ requestId ++ ";"

end Marker

end FunctionHost
