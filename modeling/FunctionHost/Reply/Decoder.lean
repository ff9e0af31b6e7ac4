import FunctionHost.Reply.Basic
import FunctionHost.Text.Blank
import FunctionHost.Text.Digits
import FunctionHost.Text.Pieces
/-!
# Decoding a reply

A decoder takes the lines of the interpreter one by one. It records from the start marker of its
request up to the end marker: a status line sets the status, a body line adds its text, and any
other line is added with a mark in front. A line with the end marker completes the reply whether it
was recorded or not.
-/

namespace FunctionHost

open FunctionHost.Http FunctionHost.Text

/-- A decimal number with an optional plus sign that fits into sixteen bits. -/
def readWord? (s : List Char) : Option Nat := do
  let n ← read? 10 ((after? ['+'] s).getD s)
  if n ≤ 65535 then some n else none

/-- The status that the rest of a status line denotes: blanks at its end, then semicolons, then
blanks around the number are dropped. -/
def parseStatus (code : List Char) : Option Status :=
  (readWord? (trim (dropEndWhile (· == ';') (trimEnd code)))).bind Status.ofNat?

/-- A status line that denotes no status. -/
structure BadStatus where
  /-- The request whose reply is decoded. -/
  requestId : String
  /-- The line. -/
  line : String
  /-- The status that stays. -/
  kept : Status
deriving DecidableEq, Repr

/-- A reply under way. -/
structure Decoder where
  /-- The request whose reply is decoded. -/
  requestId : String
  /-- A start marker was seen, and no end marker after it. -/
  recording : Bool := false
  /-- The status so far. -/
  status : Status := .ok
  /-- The body lines so far. -/
  body : List String := []
deriving DecidableEq, Repr

namespace Decoder

/-- What is put in front of a recorded line that has no tag. -/
def untaggedMark : Char := 'Y'

/-- The line holds the end marker. -/
def completes (d : Decoder) (line : String) : Bool :=
  contains (Marker.finish d.requestId).toList line.toList

/-- The line holds the start marker. -/
def starts (d : Decoder) (line : String) : Bool :=
  contains (Marker.start d.requestId).toList line.toList

/-- What follows the tag of a status line. -/
def statusText? (line : String) : Option (List Char) :=
  after? Marker.statusTag.toList line.toList

/-- What a line that is no status line adds to the body. -/
def bodyText (line : String) : String :=
  match after? Marker.bodyTag.toList line.toList with
  | some text => String.ofList text
  | none => String.ofList (untaggedMark :: line.toList)

/-- The line is recorded. -/
def records (d : Decoder) (line : String) : Bool := !d.completes line && d.recording

/-- The decoder after a line. -/
def next (d : Decoder) (line : String) : Decoder :=
  if d.completes line then { d with recording := false }
  else if !d.recording then { d with recording := d.starts line }
  else match statusText? line with
    | some code => { d with status := (parseStatus code).getD d.status }
    | none => { d with body := d.body ++ [bodyText line] }

/-- The complaint about a line, if it is a recorded status line that denotes no status. -/
def complaint? (d : Decoder) (line : String) : Option BadStatus :=
  if d.records line then
    match statusText? line with
    | some code =>
      if (parseStatus code).isNone then some ⟨d.requestId, line, d.status⟩ else none
    | none => none
  else none

/-- The reply so far. -/
def reply (d : Decoder) : Reply := ⟨d.status, "\n".intercalate d.body⟩

/-- What becomes of a list of lines. -/
structure Run where
  /-- The decoder after the last line taken. -/
  decoder : Decoder
  /-- The reply is complete. -/
  done : Bool
  /-- The lines that were not taken. -/
  rest : List String
  /-- The complaints about the lines taken. -/
  complaints : List BadStatus
deriving DecidableEq, Repr

/-- Takes lines up to one that completes the reply. -/
def run (d : Decoder) : List String → Run
  | [] => ⟨d, false, [], []⟩
  | line :: lines =>
    if d.completes line then ⟨d.next line, true, lines, []⟩
    else
      let r := (d.next line).run lines
      { r with complaints := (d.complaint? line).toList ++ r.complaints }

end Decoder

end FunctionHost
