import FunctionHost.Config.Function
import FunctionHost.Host.Basic
import FunctionHost.Pool.Basic
/-!
# Launching a pool

A pool is launched on a machine if the interpreter can be run there; the first worker that cannot be
started ends the launch. Nothing is launched for a pool without workers, and nothing fails.
-/

namespace FunctionHost

/-- Why a pool cannot be launched. -/
structure LaunchError where
  /-- The function's name. -/
  name : String
  /-- The worker that cannot be started. -/
  worker : Nat
  /-- The program that was to be run. -/
  program : String
  /-- What the system says. -/
  reason : SystemError
deriving DecidableEq, Repr

/-- The wording of a failed launch. -/
def LaunchError.message (e : LaunchError) : String :=
  "failed starting lambda " ++ e.name ++ " worker " ++ toString e.worker ++
    ": failed to start " ++ e.program ++ ": " ++ e.reason.message

section

variable {F : Type}

/-- What the pool of a function is for. -/
def Function.poolSettings (f : Function F) : PoolSettings where
  name := f.name
  module := f.module
  handler := f.handler
  workerTimeout := f.workerTimeout
  dispatchTimeout := f.dispatchTimeout

/-- Launches the pool of a function. -/
def Host.launchPool (h : Host) (f : Function F) : Except LaunchError Pool :=
  match h.launch f.interpreter f.workingDir with
  | .error e =>
    if f.workers = 0 then .ok (.launched f.poolSettings 0)
    else .error ⟨f.name, 0, f.interpreter, e⟩
  | .ok () => .ok (.launched f.poolSettings f.workers)

end

end FunctionHost
