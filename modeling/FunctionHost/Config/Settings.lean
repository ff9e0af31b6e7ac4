import FunctionHost.Config.Function
import FunctionHost.Host.Error
import FunctionHost.Net.Address
import FunctionHost.Text.Quoted
/-!
# Checking a configuration

A configuration file gives settings, each of which may be missing. `Settings.check` turns them into
a server's configuration or into the first complaint, in the order listen address, runtime, name,
entrypoint, handler, filter. An empty text counts as missing, but for the listen address and the
working directory.
-/

namespace FunctionHost

/-- The settings of a function as a file gives them; times are in seconds. -/
structure FunctionSettings where
  /-- The name. -/
  name : Option String := none
  /-- The runtime. -/
  runtime : Option String := none
  /-- The program that is launched as interpreter. -/
  interpreter : Option String := none
  /-- The source file of the handler. -/
  entrypoint : Option String := none
  /-- The handler. -/
  handler : Option String := none
  /-- How many interpreters are launched. -/
  workers : Option Nat := none
  /-- The time limit of an invocation. -/
  workerTimeout : Option Int := none
  /-- The time for which a call waits for a free interpreter. -/
  dispatchTimeout : Option Int := none
  /-- The filter on targets. -/
  uriFilter : Option String := none
  /-- The directory in which interpreters are launched. -/
  workingDir : Option String := none
deriving DecidableEq, Repr

/-- The settings of a server as a file gives them. -/
structure Settings where
  /-- The address to listen on. -/
  listen : Option String := none
  /-- The largest request body, in bytes. -/
  maxBodyBytes : Option Nat := none
  /-- The function. -/
  function : Option FunctionSettings := none
deriving DecidableEq, Repr

/-- A server's configuration, with a filter of type `F` on targets. -/
structure ServerConfig (F : Type) where
  /-- The address to listen on. -/
  listen : Net.Address
  /-- The largest request body, in bytes. -/
  maxBodyBytes : Nat
  /-- The function. -/
  function : Function F
deriving Repr

/-- Why there is no configuration. -/
inductive ConfigError where
  /-- The file cannot be read. -/
  | unreadable (path : String) (e : SystemError)
  /-- The file is not written as it should be. -/
  | malformed
  /-- The listen address is none. -/
  | invalidListen (text : String)
  /-- The runtime is missing or not supported. -/
  | runtimeRefused (e : RuntimeError)
  /-- The name is missing. -/
  | missingName
  /-- The source file is missing. -/
  | missingEntrypoint (name : String) (runtime : Runtime)
  /-- The handler is missing. -/
  | missingHandler (name : String) (runtime : Runtime)
  /-- The filter cannot be read. -/
  | invalidFilter (pattern : String)
deriving DecidableEq, Repr

/-- The wording of a refused runtime. -/
def RuntimeError.message : RuntimeError → String
  | .missing => "lambda runtime is not set"
  | .unsupported name => "unsupported lambda runtime " ++ Text.quoted name

/-- The wording of a complaint; where more is said about the place of a mistake, it follows. -/
def ConfigError.message : ConfigError → String
  | .unreadable path e => "failed to read config " ++ path ++ ": " ++ e.message
  | .malformed => "TOML parse error"
  | .invalidListen text => "invalid listen address " ++ Text.quoted text
  | .runtimeRefused e => e.message
  | .missingName => "lambda name is not set"
  | .missingEntrypoint name runtime =>
    name ++ " lambda " ++ runtime.name ++ " runtime entrypoint path is not set"
  | .missingHandler name runtime =>
    name ++ " lambda " ++ runtime.name ++ " runtime entrypoint function is not set"
  | .invalidFilter _ => "failed to compile uri_filter"

/-- The address to listen on if none is set. -/
def defaultListen : String := "127.0.0.1:8080"

/-- The largest request body if none is set. -/
def defaultMaxBodyBytes : Nat := 1048576

/-- The longest time limit, in seconds. -/
def maxTimeout : Nat := 86400

/-- A setting that is not empty. -/
def nonEmpty (s : Option String) : Option String := s.filter (· != "")

/-- A time limit in milliseconds, at most a day; less than a second counts as missing. -/
def timeLimit? (seconds : Option Int) : Option Nat :=
  (seconds.filter (1 ≤ ·)).map fun s => min s.toNat maxTimeout * 1000

section

variable {F : Type} (compile : String → Option F)

/-- Checks the settings of a function, given how filters are read. -/
def FunctionSettings.check (s : FunctionSettings) : Except ConfigError (Function F) := do
  let runtime ← (Runtime.read? (s.runtime.getD "")).mapError .runtimeRefused
  let some name := nonEmpty s.name | throw .missingName
  let some entrypoint := nonEmpty s.entrypoint | throw (.missingEntrypoint name runtime)
  let some handler := nonEmpty s.handler | throw (.missingHandler name runtime)
  let workerTimeout := (timeLimit? s.workerTimeout).getD defaultTimeout
  let uriFilter ← match nonEmpty s.uriFilter with
    | none => pure none
    | some pattern =>
      match compile pattern with
      | some f => pure (some f)
      | none => throw (.invalidFilter pattern)
  return {
    name, runtime, entrypoint, handler, workerTimeout, uriFilter
    interpreter := (nonEmpty s.interpreter).getD defaultInterpreter
    workers := s.workers.getD 1
    dispatchTimeout := (timeLimit? s.dispatchTimeout).getD workerTimeout
    workingDir := s.workingDir }

/-- Checks the settings of a server, given how filters are read. -/
def Settings.check (s : Settings) : Except ConfigError (ServerConfig F) := do
  let text := s.listen.getD defaultListen
  let some listen := Net.Address.read? text | throw (.invalidListen text)
  let function ← (s.function.getD {}).check compile
  return { listen, function, maxBodyBytes := s.maxBodyBytes.getD defaultMaxBodyBytes }

end

end FunctionHost
