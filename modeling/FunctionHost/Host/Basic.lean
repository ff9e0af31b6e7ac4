import FunctionHost.Host.Error
import FunctionHost.Net.Address
import FunctionHost.Text.Pieces
/-!
# The machine that a pool runs on

A machine has files, a search path for programs, and addresses on which somebody listens. This is
all that decides whether a configuration can be read, interpreters can be launched, and an address
can be listened on.
-/

namespace FunctionHost

open FunctionHost.Text

/-- What stands at a path. -/
inductive Entry where
  /-- A directory. -/
  | directory
  /-- A file that may not be run. -/
  | document (content : List UInt8)
  /-- A file that may be run. -/
  | program
deriving DecidableEq, Repr

/-- A machine. -/
structure Host where
  /-- The entries by the names along their paths; the directories on the way are there too. -/
  entries : List (List String × Entry)
  /-- The directories in which a program is looked for that is given by its name alone. -/
  searchPath : List String := []
  /-- The addresses on which somebody listens. -/
  inUse : List Net.Address := []
deriving Repr

namespace Host

/-- The names along a path. -/
def namesOf (path : String) : List String := (cutAll '/' path.toList).map String.ofList

/-- A path without the names that stay or go back: the path that a process in a directory sees. -/
def plainPath (path : String) : String :=
  let names := (namesOf path).foldl (fun names n =>
    if n = "" ∨ n = "." then names
    else if n = ".." then names.dropLast
    else names ++ [n]) []
  "/" ++ "/".intercalate names

/-- What stands where the names lead. -/
def entry? (h : Host) (names : List String) : Option Entry :=
  match h.entries.lookup names with
  | some e => some e
  | none => if h.entries.any fun (ns, _) => names.isPrefixOf ns then some .directory else none

/-- The most bytes of a name in a directory. -/
def maxNameBytes : Nat := 255

/-- The most bytes of a path. -/
def maxPathBytes : Nat := 4095

/-- Follows names from a directory: an empty name or a dot stays, two dots go up. -/
def follow (h : Host) (base : List String) : List String → Except SystemError Entry
  | [] => (h.entry? base).elim (.error .notFound) .ok
  | n :: ns =>
    match h.entry? base with
    | none => .error .notFound
    | some .directory =>
      if n = "" ∨ n = "." then h.follow base ns
      else if n = ".." then h.follow base.dropLast ns
      else if maxNameBytes < n.utf8ByteSize then .error .nameTooLong
      else h.follow (base ++ [n]) ns
    | some _ => .error .notDirectory

/-- What stands at a path. The empty path leads nowhere. -/
def find (h : Host) (path : String) : Except SystemError Entry :=
  if path = "" then .error .notFound
  else if maxPathBytes < path.utf8ByteSize then .error .nameTooLong
  else h.follow [] (namesOf path)

/-- The content of the file at a path. -/
def read (h : Host) (path : String) : Except SystemError (List UInt8) :=
  match h.find path with
  | .error e => .error e
  | .ok .directory => .error .isDirectory
  | .ok (.document content) => .ok content
  | .ok .program => .ok []

/-- Whether a file can be run. -/
def run (h : Host) (path : String) : Except SystemError Unit :=
  match h.find path with
  | .error e => .error e
  | .ok .program => .ok ()
  | .ok _ => .error .denied

/-- Runs the first program of a name on the search path; something that may not be run is passed
over, and counts only if nothing else is found. -/
def search (h : Host) (name : String) : Except SystemError Unit :=
  let tried := h.searchPath.map fun dir => h.run (dir ++ "/" ++ name)
  if maxNameBytes < name.utf8ByteSize then .error .nameTooLong
  else if tried.any (·.isOk) then .ok ()
  else if tried.any fun
    | .error .denied => true
    | _ => false
  then .error .denied
  else .error .notFound

/-- Whether a program can be launched, in a working directory if one is given. -/
def launch (h : Host) (program : String) (workingDir : Option String) :
    Except SystemError Unit := do
  if '\x00' ∈ program.toList ∨ '\x00' ∈ (workingDir.getD "").toList then throw .zeroByte
  if let some dir := workingDir then
    match ← h.find dir with
    | .directory => pure ()
    | _ => throw .notDirectory
  if program = "" then throw .notFound
  else if '/' ∈ program.toList then h.run program
  else h.search program

/-- Why the machine, whose network is down, cannot listen on an address, whoever else listens: it
takes every address of version 4 but has none of version 6 that is its own. -/
def addressError? : Net.Address → Option SystemError
  | .v4 _ _ => none
  | .v6 groups scope _ =>
    match groups with
    | [0, 0, 0, 0, 0, 0, 0, 0] => none
    | [0, 0, 0, 0, 0, 0xFFFF, _, _] => none
    | first :: _ =>
      if 0xFF00 ≤ first then some .invalidArgument
      else if 0xFE80 ≤ first ∧ first < 0xFEC0 then
        if scope = 0 then some .invalidArgument
        else if scope = 1 then some .addressNotAvailable
        else some .noDevice
      else some .addressNotAvailable
    | [] => some .addressNotAvailable

/-- Whether an address can be listened on. -/
def listen (h : Host) (a : Net.Address) : Except SystemError Unit :=
  match addressError? a with
  | some e => .error e
  | none => if h.inUse.contains a then .error .addressInUse else .ok ()

end Host

end FunctionHost
