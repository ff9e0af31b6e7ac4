import FunctionHost.Config.Settings
import FunctionHost.Pattern.Filter
import FunctionHost.Text.Utf8
import FunctionHost.Toml.Document
/-!
# Configuration files

A configuration file is a TOML document with the keys `listen` and `max_body_bytes` and the table
`function`. Nothing else may stand in it, and every setting has its own kind of value. The settings
of a function may also be given as an array, in the order of `functionKeys`.
-/

namespace FunctionHost

open FunctionHost.Text FunctionHost.Toml

/-- A setting that takes a text. -/
def textSetting? : Value → Option String
  | .text s => some s
  | _ => none

/-- A setting that takes an integer. -/
def integerSetting? : Value → Option Int
  | .integer n => some n
  | _ => none

/-- A setting that takes a natural number below a limit. -/
def naturalSetting? (limit : Nat) : Value → Option Nat
  | .integer n => if 0 ≤ n ∧ n.toNat < limit then some n.toNat else none
  | _ => none

/-- The keys of the settings of a function. -/
def functionKeys : List String := [
  "name", "runtime", "python_executable", "entrypoint", "function", "workers", "worker_timeout",
  "dispatch_timeout", "uri_filter", "working_dir"]

namespace FunctionSettings

/-- Puts a setting. -/
def put? (s : FunctionSettings) : String × Value → Option FunctionSettings
  | ("name", v) => do return { s with name := some (← textSetting? v) }
  | ("runtime", v) => do return { s with runtime := some (← textSetting? v) }
  | ("python_executable", v) => do return { s with interpreter := some (← textSetting? v) }
  | ("entrypoint", v) => do return { s with entrypoint := some (← textSetting? v) }
  | ("function", v) => do return { s with handler := some (← textSetting? v) }
  | ("workers", v) => do return { s with workers := some (← naturalSetting? (Nat.pow 2 32) v) }
  | ("worker_timeout", v) => do return { s with workerTimeout := some (← integerSetting? v) }
  | ("dispatch_timeout", v) => do return { s with dispatchTimeout := some (← integerSetting? v) }
  | ("uri_filter", v) => do return { s with uriFilter := some (← textSetting? v) }
  | ("working_dir", v) => do return { s with workingDir := some (← textSetting? v) }
  | _ => none

/-- The settings in a list of values with their keys. -/
def ofMembers? (ms : List (String × Value)) : Option FunctionSettings := ms.foldlM put? {}

/-- The settings in an item of a document. -/
def ofItem? : Item → Option FunctionSettings
  | .table _ items => do
    ofMembers? (← items.mapM fun
      | (k, .value v) => some (k, v)
      | (_, .table ..) => none)
  | .value (.table ms) => ofMembers? ms
  | .value (.array vs) =>
    if functionKeys.length ≤ vs.length then ofMembers? (functionKeys.zip vs) else none
  | .value _ => none

end FunctionSettings

namespace Settings

/-- Puts a setting. -/
def put? (s : Settings) : String × Item → Option Settings
  | ("listen", .value v) => do return { s with listen := some (← textSetting? v) }
  | ("max_body_bytes", .value v) => do
    return { s with maxBodyBytes := some (← naturalSetting? (Nat.pow 2 64) v) }
  | ("function", i) => do return { s with function := some (← FunctionSettings.ofItem? i) }
  | _ => none

/-- The settings in a document. -/
def ofText? (text : List Char) : Option Settings := do
  (← document? text).foldlM put? {}

end Settings

/-- Reads the text of a configuration file. -/
def ServerConfig.ofText (text : String) : Except ConfigError (ServerConfig Filter) :=
  match Settings.ofText? text.toList with
  | none => .error .malformed
  | some s => s.check Filter.read?

/-- Reads the configuration file at a path, given what reading the path gives. -/
def ServerConfig.ofContent (path : String) (content : Except SystemError (List UInt8)) :
    Except ConfigError (ServerConfig Filter) :=
  match content with
  | .error e => .error (.unreadable path e)
  | .ok bytes =>
    match Utf8.decode? bytes with
    | none => .error (.unreadable path .notText)
    | some text => ServerConfig.ofText (String.ofList text)

/-- The targets that a function takes: all, unless there is a filter. -/
def Function.accepts (f : Function Filter) (target : String) : Bool :=
  f.uriFilter.all (·.accepts target)

end FunctionHost
