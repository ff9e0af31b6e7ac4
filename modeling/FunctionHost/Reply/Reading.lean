import FunctionHost.Reply.Decoder
/-!
# Reading a reply against a deadline

Lines arrive on a channel at times that do not decrease, and the channel may close after the last
one. A read takes lines until its reply is complete, the channel is closed, or its deadline has
come. What has arrived when the read starts is taken even if there is no time left; what arrives at
or after the deadline is left to the next read.

A limit that the clock cannot reckon with, because the moment at which it is reached comes after
the last one that the clock has, is no limit (`none`). The longest limit of a configuration is far
from that. Even without a limit there is a deadline, thirty years away (`readReply_none`).
-/

namespace FunctionHost

/-- The lines of an interpreter with the times at which they arrive. -/
structure Channel where
  /-- The lines not yet taken, in order. -/
  lines : List (Nat × String)
  /-- When the channel closes, if it does. -/
  closes : Option Nat
deriving DecidableEq, Repr

/-- How a read ends. -/
inductive ReadOutcome where
  /-- The reply is complete. -/
  | reply (r : Reply)
  /-- The deadline came first. -/
  | timedOut
  /-- The channel was closed first. -/
  | closed
deriving DecidableEq, Repr

/-- The end of a read. -/
structure Reading where
  /-- How it ended. -/
  outcome : ReadOutcome
  /-- When it ended. -/
  time : Nat
  /-- What it left. -/
  channel : Channel
  /-- The complaints about the lines taken. -/
  complaints : List BadStatus
deriving DecidableEq, Repr

/-- Something that happens at `time` is seen at `now` by a read that ends at `deadline`. -/
def seen (now deadline time : Nat) : Bool := time ≤ now || time < deadline

/-- Goes on with a read at time `now`. -/
def Decoder.read (d : Decoder) (now deadline : Nat) (closes : Option Nat) :
    List (Nat × String) → Reading
  | [] =>
    match closes with
    | some c =>
      if seen now deadline c then ⟨.closed, max now c, ⟨[], closes⟩, []⟩
      else ⟨.timedOut, max now deadline, ⟨[], closes⟩, []⟩
    | none => ⟨.timedOut, max now deadline, ⟨[], closes⟩, []⟩
  | (t, line) :: lines =>
    if seen now deadline t then
      if d.completes line then ⟨.reply (d.next line).reply, max now t, ⟨lines, closes⟩, []⟩
      else
        let r := (d.next line).read (max now t) deadline closes lines
        { r with complaints := (d.complaint? line).toList ++ r.complaints }
    else ⟨.timedOut, max now deadline, ⟨(t, line) :: lines, closes⟩, []⟩

/-- Milliseconds that stand for no limit, about thirty years. -/
def farFuture : Nat := 86400 * 365 * 30 * 1000

/-- The moment at which a limit is reached that begins `now`. -/
def deadlineAfter (now : Nat) : Option Nat → Nat
  | some limit => now + limit
  | none => now + farFuture

@[simp] theorem deadlineAfter_some (now limit : Nat) :
    deadlineAfter now (some limit) = now + limit := rfl

/-- Reads the reply of a request, starting at time `now`. -/
def Channel.readReply (c : Channel) (requestId : String) (limit : Option Nat) (now : Nat) :
    Reading :=
  ({ requestId := requestId } : Decoder).read now (deadlineAfter now limit) c.closes c.lines

/-- A read without a limit is one that may last for thirty years. -/
theorem Channel.readReply_none (c : Channel) (requestId : String) (now : Nat) :
    c.readReply requestId none now = c.readReply requestId (some farFuture) now := rfl

/-- Reads one reply after another, each with a limit and starting when the one before it has
ended. -/
def Channel.readAll (c : Channel) (now : Nat) : List (String × Nat) → List Reading
  | [] => []
  | (requestId, limit) :: rs =>
    let r := c.readReply requestId (some limit) now
    r :: r.channel.readAll r.time rs

/-- The lines that have arrived by a time. -/
def Channel.arrived (c : Channel) (now : Nat) : List String :=
  (c.lines.filter (·.1 ≤ now)).map (·.2)

end FunctionHost
