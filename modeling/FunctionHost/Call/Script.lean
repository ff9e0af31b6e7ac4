import FunctionHost.Json.Value
import FunctionHost.Reply.Basic
/-!
# Statements of a call

An invocation is written to the interpreter as six statements, one a line: the result is cleared,
the handler is applied to the event, and the reply is printed between its markers. The event
travels as a string literal that holds its JSON text; the markers are string literals too. The
first invocation of an interpreter is preceded by the statements that load the module.
-/

namespace FunctionHost.Call

open FunctionHost.Json

/-- The statements that load a module. -/
def bootstrap (module : String) : String := "from " ++ module ++ " import *\nimport json\n"

/-- The text written for an invocation, given the event's JSON text. -/
def statements (handler requestId eventText : String) : List String := [
  "resp = None",
  "resp = " ++ handler ++ "(json.loads(" ++ literal eventText ++ "))",
  "print(" ++ literal (Marker.start requestId) ++ ")",
  "print(f\"" ++ Marker.statusTag ++ "\x7bresp['status_code']\x7d;\")",
  "print(f\"" ++ Marker.bodyTag ++ "\x7bresp['body']\x7d\")",
  "print(" ++ literal (Marker.finish requestId) ++ ")"]

/-- The text written for an invocation of a handler with an event. -/
def script (handler requestId : String) (event : Json.Value) : String :=
  String.join ((statements handler requestId event.text).map (· ++ "\n"))

end FunctionHost.Call
