import FunctionHost.Text.Pieces
/-!
# The function that is hosted

A function is a handler in a source file, run by a pool of interpreters. Times are in milliseconds.
-/

namespace FunctionHost

open FunctionHost.Text

/-- A language that handlers are written in. -/
inductive Runtime where
  /-- Python -/
  | python
deriving DecidableEq, Repr

/-- Why a runtime is refused. -/
inductive RuntimeError where
  /-- None is named. -/
  | missing
  /-- The one named is not supported. -/
  | unsupported (name : String)
deriving DecidableEq, Repr

namespace Runtime

/-- The name of a runtime. -/
def name : Runtime → String
  | .python => "python"

/-- The runtime with a name. -/
def read? (s : String) : Except RuntimeError Runtime :=
  if s = "" then .error .missing
  else if s = "python" then .ok .python
  else .error (.unsupported s)

/-- The options with which the interpreter of a runtime is launched. -/
def launchArgs : Runtime → List String
  | .python => ["-i", "-q", "-u"]

end Runtime

/-- A text without the `./` at its start, however often it stands there. -/
def dropHere : List Char → List Char
  | '.' :: '/' :: s => dropHere s
  | s => s

/-- The dotted name of the module in a source file. -/
def moduleName (path : String) : String :=
  let s := dropHere path.toList
  let s := (before? ".py".toList s).getD s
  String.ofList (s.map fun c => if c = '/' ∨ c = '\\' then '.' else c)

/-- The interpreter that is launched if none is named. -/
def defaultInterpreter : String := "python"

/-- The time limit of an invocation if none is set. -/
def defaultTimeout : Nat := 60000

/-- A hosted function, whose requests may be limited by a filter of type `F` on their targets. -/
structure Function (F : Type) where
  /-- The name. -/
  name : String
  /-- The runtime. -/
  runtime : Runtime := .python
  /-- The program that is launched as interpreter. -/
  interpreter : String := defaultInterpreter
  /-- The source file of the handler. -/
  entrypoint : String
  /-- The handler. -/
  handler : String
  /-- How many interpreters are launched. -/
  workers : Nat := 1
  /-- The time limit of an invocation. -/
  workerTimeout : Nat := defaultTimeout
  /-- The time for which a call waits for a free interpreter. -/
  dispatchTimeout : Nat := defaultTimeout
  /-- The filter on targets. -/
  uriFilter : Option F := none
  /-- The directory in which interpreters are launched. -/
  workingDir : Option String := none
deriving Repr

/-- The module of the handler. -/
def Function.module {F : Type} (f : Function F) : String := moduleName f.entrypoint

end FunctionHost
