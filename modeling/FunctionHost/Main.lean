import FunctionHost.Config.File
import FunctionHost.Server.Start
/-!
# Command line

Checks the configuration file named by the first argument, and says what is wrong with it.
-/

open FunctionHost

/-- Why something was refused. The sign of a number depends on the call that was refused. -/
def refusal : IO.Error → SystemError
  | .noFileOrDirectory _ number text
  | .interrupted _ number text
  | .alreadyExists _ number text
  | .invalidArgument _ number text
  | .permissionDenied _ number text
  | .resourceExhausted _ number text
  | .inappropriateType _ number text
  | .noSuchThing _ number text
  | .otherError number text
  | .resourceBusy number text
  | .resourceVanished number text
  | .unsupportedOperation number text
  | .hardwareFault number text
  | .unsatisfiedConstraints number text
  | .illegalOperation number text
  | .protocolError number text
  | .timeExpired number text => .ofNumber text number.toInt32.toInt.natAbs
  | .unexpectedEof => .other "unexpected end of file"
  | .userError text => .other text

/-- The content of a file. -/
def readFile (path : String) : IO (Except SystemError (List UInt8)) := do
  try
    return .ok (← IO.FS.readBinFile path).toList
  catch e =>
    return .error (refusal e)

/-- Runs the program. -/
def main (arguments : List String) : IO UInt32 := do
  let result ← match arguments.head? with
    | none => pure (Except.error StartError.usage)
    | some path =>
      pure ((ServerConfig.ofContent path (← readFile path)).mapError StartError.config)
  match result with
  | .ok _ => return 0
  | .error e =>
    IO.eprintln e.report
    return 1
