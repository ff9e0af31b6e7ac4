import FunctionHost.Call.Script
import FunctionHost.Event.Basic
import FunctionHost.Host.Error
import FunctionHost.Output.Lines
import FunctionHost.Reply.Decoder
/-!
# Pools of interpreters

A pool holds one function's interpreters. Each worker serves one call at a time; calls made on a
worker wait in its queue, and calls made on the pool wait in one line for any free worker. This
module has the types: what a call is, what a worker remembers, and what can be seen of a pool.

Whose turn it is next is a list of `Turn`s. A pool without turns is settled: nothing more happens
until something is done to it or time passes.
-/

namespace FunctionHost

/-- How a call was made. -/
inductive Origin where
  /-- On the pool. -/
  | dispatched
  /-- On the pool, for a request with an id. -/
  | served (requestId : String)
  /-- On a worker, waiting for its turn. -/
  | handled
  /-- On a worker, only if it is free. -/
  | tried
deriving DecidableEq, Repr

/-- A call of a handler with an event. -/
structure Call where
  /-- What tells this call from others. -/
  name : String
  /-- How it was made. -/
  origin : Origin
  /-- The module that an interpreter loads before its first invocation. -/
  module : String
  /-- The handler. -/
  handler : String
  /-- The event. -/
  event : Event
deriving DecidableEq, Repr

/-- The text written to an interpreter for a call. -/
def Call.text (c : Call) : String := Call.script c.handler c.event.requestId c.event.json

/-- Why an invocation failed. -/
inductive CallError where
  /-- The interpreter does not read its input. -/
  | write (worker : Nat)
  /-- The interpreter's output ended before the reply was complete. -/
  | closed (worker : Nat)
  /-- The worker was terminated before the call was made. -/
  | terminated (worker : Nat)
deriving DecidableEq, Repr

/-- The wording of a failure. -/
def CallError.message : CallError → String
  | .write w => "failed to write to worker " ++ toString w ++ ": " ++ SystemError.brokenPipe.message
  | .closed w => "worker " ++ toString w ++ " output closed before the reply completed"
  | .terminated w => "worker " ++ toString w ++ " is terminated"

/-- Why a worker could not be terminated. -/
inductive TerminateError where
  /-- Its process could not be killed. -/
  | kill (worker : Nat) (e : SystemError)
deriving DecidableEq, Repr

/-- The wording of such a failure. -/
def TerminateError.message : TerminateError → String
  | .kill w e => "failed to kill worker " ++ toString w ++ ": " ++ e.message

/-- How a call ends. -/
inductive Outcome where
  /-- With a reply. -/
  | reply (r : Reply)
  /-- With a failure. -/
  | failed (e : CallError)
  /-- At once, because the worker was not free. -/
  | refused
deriving DecidableEq, Repr

/-- A call that has a worker. -/
structure Invocation where
  /-- The call. -/
  call : Call
  /-- When it got the worker. -/
  started : Nat
  /-- What has been read of its reply. -/
  decoder : Decoder
deriving DecidableEq, Repr

/-- Who has a worker. -/
inductive Hold where
  /-- Nobody. -/
  | free
  /-- A call that waited for the worker and has not begun. -/
  | granted (c : Call)
  /-- An invocation in progress. -/
  | running (inv : Invocation)
deriving DecidableEq, Repr

/-- An interpreter and the calls on it. -/
structure Worker where
  /-- The process runs. -/
  alive : Bool := true
  /-- The process reads its input. -/
  reading : Bool := true
  /-- The worker takes no more calls. -/
  terminated : Bool := false
  /-- The module has been loaded. -/
  bootstrapped : Bool := false
  /-- All that has been written to the process. -/
  written : String := ""
  /-- Bytes of its output after the last newline. -/
  outWaiting : List UInt8 := []
  /-- Bytes of its error output after the last newline. -/
  errWaiting : List UInt8 := []
  /-- Lines of its output that nobody has read. -/
  unread : List String := []
  /-- Who has the worker. -/
  hold : Hold := .free
  /-- Calls that wait for this worker, first come first. -/
  queue : List Call := []
deriving DecidableEq, Repr

namespace Worker

/-- The worker can be taken at once. -/
def isFree (w : Worker) : Bool := !w.terminated && w.hold == .free

/-- An invocation is in progress. -/
def isBusy (w : Worker) : Bool :=
  match w.hold with
  | .running _ => true
  | _ => false

/-- The invocation in progress. -/
def running? (w : Worker) : Option Invocation :=
  match w.hold with
  | .running inv => some inv
  | _ => none

/-- What comes of killing the process: one that has exited cannot be killed. -/
def kill (w : Worker) : Except SystemError Unit := if w.alive then .ok () else .error .exited

end Worker

/-- A call that waits for any free worker. -/
structure Waiter where
  /-- The call. -/
  call : Call
  /-- When it stops waiting. -/
  deadline : Nat
deriving DecidableEq, Repr

/-- Something that has been set off and not happened yet. -/
inductive Turn where
  /-- The call that was granted a worker begins. -/
  | start (worker : Nat)
  /-- A waiting call looks for a free worker. -/
  | look (w : Waiter)
deriving DecidableEq, Repr

/-- What can be seen to happen. -/
inductive Effect where
  /-- A call gets a worker. -/
  | obtained (worker : Nat) (c : Call)
  /-- A text is written to an interpreter. -/
  | wrote (worker : Nat) (text : String)
  /-- The reply to a call is read to its end. -/
  | completed (worker : Nat) (c : Call) (r : Reply)
  /-- A call ends. -/
  | ended (c : Call) (o : Outcome)
  /-- A status line denotes no status. -/
  | complained (b : BadStatus)
  /-- An interpreter exits that was not terminated. -/
  | exitedUnexpectedly (worker : Nat)
  /-- An interpreter says something on its error output. -/
  | said (worker : Nat) (text : String)
deriving DecidableEq, Repr

/-- What a pool is for. -/
structure PoolSettings where
  /-- The function's name. -/
  name : String
  /-- The module of the handler. -/
  module : String
  /-- The handler. -/
  handler : String
  /-- The time limit of an invocation. -/
  workerTimeout : Nat
  /-- The time for which a call waits for a free worker. -/
  dispatchTimeout : Nat
deriving DecidableEq, Repr

/-- A pool of interpreters. -/
structure Pool where
  /-- What it is for. -/
  settings : PoolSettings
  /-- The time since the pool was made. -/
  clock : Nat := 0
  /-- The workers, in the order in which a free one is looked for. -/
  workers : List Worker
  /-- The calls that wait for any free worker, the longest waiting first. -/
  waiting : List Waiter := []
  /-- A wake-up that found nobody waiting. -/
  permit : Bool := false
  /-- What has been set off, in order. -/
  ready : List Turn := []
  /-- What has been seen since the last action began. -/
  effects : List Effect := []
deriving DecidableEq, Repr

/-- A pool of newly launched interpreters. -/
def Pool.launched (s : PoolSettings) (n : Nat) : Pool :=
  { settings := s, workers := List.replicate n {} }

end FunctionHost
