import FunctionHost.Text.Blank
import FunctionHost.Text.Pieces
import FunctionHost.Text.Utf8
/-!
# Lines of an interpreter's output

Output comes in pieces of bytes. A line ends at a newline byte and is read as UTF-8 with
replacement, without the newlines and carriage returns at its end. What follows the last newline
waits for more, or is a line of its own when the output ends.
-/

namespace FunctionHost.Output

open FunctionHost.Text

/-- The newline byte. -/
def newline : UInt8 := 10

/-- The bytes of each line that a newline ends, and the bytes after the last newline. -/
def cut : List UInt8 → List (List UInt8) × List UInt8
  | [] => ([], [])
  | b :: bs =>
    let (ls, r) := cut bs
    if b = newline then ([] :: ls, r)
    else match ls with
      | [] => ([], b :: r)
      | l :: ls => ((b :: l) :: ls, r)

/-- A newline or a carriage return. -/
def isLineEnd (c : Char) : Bool := c == '\n' || c == '\r'

/-- The text of a line given by its bytes. -/
def lineText (bs : List UInt8) : String :=
  String.ofList (dropEndWhile isLineEnd (Utf8.decodeLossy bs))

/-- The lines that data completes after bytes that wait, and the bytes that then wait. -/
def feed (waiting data : List UInt8) : List String × List UInt8 :=
  let (ls, r) := cut (waiting ++ data)
  (ls.map lineText, r)

/-- The line that the end of the output makes of the bytes that wait. -/
def last (waiting : List UInt8) : List String :=
  if waiting.isEmpty then [] else [lineText waiting]

/-- All lines of an output that comes in pieces and then ends. -/
def lines (waiting : List UInt8) : List (List UInt8) → List String
  | [] => last waiting
  | data :: rest =>
    let (ls, r) := feed waiting data
    ls ++ lines r rest

/-- A line without the prompts at its start and the blanks at its end. -/
def stripPrompts (s : List Char) : List Char :=
  match s with
  | '>' :: '>' :: '>' :: ' ' :: r => stripPrompts r
  | '.' :: '.' :: '.' :: ' ' :: r => stripPrompts r
  | s => trimEnd s
termination_by s.length

/-- What a line of the error output says, if it says anything. -/
def message? (line : String) : Option String :=
  let s := stripPrompts line.toList
  if s.isEmpty then none else some (String.ofList s)

end FunctionHost.Output
