import FunctionHost.Config.File
import FunctionHost.Host.Launch
import FunctionHost.Server.Response
/-!
# Starting a server

A server is started with the path of a configuration file. The file is read and checked, the pool is
launched, and the address is listened on, in this order; the first of these that fails is why the
server does not start.
-/

namespace FunctionHost

/-- Why a server does not start. -/
inductive StartError where
  /-- No configuration file is named. -/
  | usage
  /-- There is no configuration. -/
  | config (e : ConfigError)
  /-- The pool cannot be launched. -/
  | launch (e : LaunchError)
  /-- The address cannot be listened on. -/
  | listen (a : Net.Address) (e : SystemError)
deriving DecidableEq, Repr

/-- The wording of a failed start. -/
def StartError.message : StartError → String
  | .usage => "usage: lambdad <config.toml>"
  | .config e => "Config error: " ++ e.message
  | .launch e => "Provisioning error: " ++ e.message
  | .listen a e => "Failed to bind " ++ a.text ++ ": " ++ e.message

/-- What the program says when it does not start. -/
def StartError.report (e : StartError) : String := "lambdad: " ++ e.message

/-- The gateway of a function before its pool. -/
def Function.gateway (f : Function Filter) (p : Pool) : Gateway :=
  { accepts := f.accepts, pool := p }

/-- Starts a server on a machine; arguments after the first are disregarded. -/
def Host.start (h : Host) (arguments : List String) :
    Except StartError (Net.Address × Server) := do
  let some path := arguments.head? | throw .usage
  let config ← (ServerConfig.ofContent path (h.read path)).mapError .config
  let pool ← (h.launchPool config.function).mapError .launch
  (h.listen config.listen).mapError (.listen config.listen)
  return (config.listen, ⟨config.function.gateway pool, config.maxBodyBytes⟩)

end FunctionHost
