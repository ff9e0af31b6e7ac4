import FunctionHost.Pool.Turn
/-!
# Actions on a pool

What can be done to a pool: calls are made and cancelled, interpreters print, stop reading, exit or
are terminated, and time passes. After every action the pool settles. `step` gives the answer of an
action and the pool after it, whose `effects` are what was seen meanwhile.

It is assumed that nobody but an interpreter holds the ends of its pipes. So its death, the end of
its output, the end of its input and the end of its worker are one event, and what it prints can be
read at once. A host may kill the processes that it has started, and does not wait in vain for a
killed one to exit.

Time may be up at one moment for invocations and for calls that wait. Which timer goes off first is
not for the program to say, since a wait that was interrupted in vain has a newer timer than its
call. Here invocations end first, in the order of the workers, so that they wake calls that would
have given up at that moment (`expire`). A call that gives up first ends as it would without them,
and everything else happens as if it had been dropped at that moment (`expire_of_gives_up`).
-/

namespace FunctionHost

/-- Something done to a pool. -/
inductive Action where
  /-- A call on the pool. -/
  | dispatch (c : Call)
  /-- A call on a worker, for which it waits. -/
  | handle (worker : Nat) (c : Call)
  /-- A call on a worker, only if it is free. -/
  | tryHandle (worker : Nat) (c : Call)
  /-- A call is dropped. -/
  | cancel (name : String)
  /-- An interpreter prints. -/
  | stdout (worker : Nat) (data : List UInt8)
  /-- An interpreter prints on its error output. -/
  | stderr (worker : Nat) (data : List UInt8)
  /-- An interpreter reads no more. -/
  | closeStdin (worker : Nat)
  /-- An interpreter dies. -/
  | exit (worker : Nat)
  /-- Time passes, in milliseconds. -/
  | advance (ms : Nat)
  /-- A worker is terminated. -/
  | terminate (worker : Nat)
  /-- All workers are terminated. -/
  | teardown
deriving DecidableEq, Repr

/-- The answer of an action. -/
inductive Answer where
  /-- Done. -/
  | ok
  /-- There is no such call. -/
  | noCall
  /-- The process is dead. -/
  | noProcess
  /-- So many workers could not be terminated. -/
  | failures (n : Nat)
deriving DecidableEq, Repr

/-- The answer when one worker is to be terminated. -/
def Answer.ofTerminated : Except TerminateError Unit → Answer
  | .ok () => .ok
  | .error _ => .failures 1

namespace Pool

/-! ### Calls -/

/-- A call on the pool looks for a worker, and waits until the dispatch timeout has passed. -/
def dispatch (p : Pool) (c : Call) : Pool :=
  let d : Waiter := ⟨c, deadlineAfter p.clock (some p.settings.dispatchTimeout)⟩
  ({ p with ready := p.ready ++ [.look d] } : Pool).settle

/-- A call on a worker fails if the worker is terminated, and waits while somebody has it. -/
def handle (p : Pool) (i : Nat) (c : Call) : Pool :=
  match p.workers[i]? with
  | none => p
  | some w =>
    if w.terminated then p.note (.ended c (.failed (.terminated i)))
    else if w.hold = .free then (p.start i c).settle
    else p.setWorker i { w with queue := w.queue ++ [c] }

/-- A call on a worker is refused unless the worker is free. -/
def tryHandle (p : Pool) (i : Nat) (c : Call) : Pool :=
  match p.workers[i]? with
  | none => p
  | some w => if w.isFree then (p.start i c).settle else p.note (.ended c .refused)

/-- The worker has an invocation of the call. -/
def runs (name : String) (w : Worker) : Bool :=
  match w.running? with
  | some inv => inv.call.name == name
  | none => false

/-- The call waits for the worker. -/
def queues (name : String) (w : Worker) : Bool := w.queue.any (·.name == name)

/-- Drops a call: a worker that has it is released, and a line in which it waits closes up. -/
def cancel (p : Pool) (name : String) : Answer × Pool :=
  match p.workers.findIdx? (runs name) with
  | some i => (.ok, (p.release i).settle)
  | none =>
    match p.workers.findIdx? (queues name) with
    | some i =>
      (.ok, { p with
        workers := p.workers.modify i fun w =>
          { w with queue := w.queue.filter (·.name != name) } })
    | none =>
      if p.waiting.any (·.call.name == name) then
        (.ok, { p with waiting := p.waiting.filter (·.call.name != name) })
      else (.noCall, p)

/-! ### Interpreters -/

/-- An interpreter prints. -/
def stdout (p : Pool) (i : Nat) (data : List UInt8) : Answer × Pool :=
  match p.workers[i]? with
  | none => (.noProcess, p)
  | some w =>
    if w.alive then
      let (lines, waiting) := Output.feed w.outWaiting data
      let p := p.setWorker i { w with outWaiting := waiting, unread := w.unread ++ lines }
      (.ok, (p.proceed i).settle)
    else (.noProcess, p)

/-- What lines of the error output say. -/
def said (i : Nat) (lines : List String) : List Effect :=
  (lines.filterMap Output.message?).map (.said i)

/-- An interpreter prints on its error output. -/
def stderr (p : Pool) (i : Nat) (data : List UInt8) : Answer × Pool :=
  match p.workers[i]? with
  | none => (.noProcess, p)
  | some w =>
    if w.alive then
      let (lines, waiting) := Output.feed w.errWaiting data
      (.ok, (p.setWorker i { w with errWaiting := waiting }).notes (said i lines))
    else (.noProcess, p)

/-- An interpreter reads no more; the worker stays as it is. -/
def closeStdin (p : Pool) (i : Nat) : Pool :=
  { p with workers := p.workers.modify i fun w => { w with reading := false } }

/-- A process dies: the bytes that wait are last lines, and its worker takes no more calls. -/
def die (p : Pool) (i : Nat) (w : Worker) : Pool :=
  (p.setWorker i { w with
    alive := false
    reading := false
    terminated := true
    outWaiting := []
    errWaiting := []
    unread := w.unread ++ Output.last w.outWaiting }).notes (said i (Output.last w.errWaiting))

/-- An interpreter dies by itself, which is unexpected unless its worker is terminated. -/
def exit (p : Pool) (i : Nat) : Answer × Pool :=
  match p.workers[i]? with
  | none => (.noProcess, p)
  | some w =>
    if w.alive then
      let p := p.die i w
      let p := if w.terminated then p else p.note (.exitedUnexpectedly i)
      (.ok, (p.proceed i).settle)
    else (.noProcess, p)

/-- A worker is terminated: it takes no more calls, and its process is killed unless it has exited,
which is no failure. -/
def terminate (p : Pool) (i : Nat) : Except TerminateError Unit × Pool :=
  match p.workers[i]? with
  | none => (.ok (), p)
  | some w =>
    if w.alive then
      match w.kill with
      | .ok () => (.ok (), ((p.die i w).proceed i).settle)
      | .error e => (.error (.kill i e), p.setWorker i { w with terminated := true })
    else (.ok (), p.setWorker i { w with terminated := true })

/-- Terminates one more worker, and counts failures. -/
def terminateNext (acc : Nat × Pool) (i : Nat) : Nat × Pool :=
  match acc.2.terminate i with
  | (.ok (), p) => (acc.1, p)
  | (.error _, p) => (acc.1 + 1, p)

/-- All workers are terminated, one after another, even if this fails for some; then every waiting
call is woken. -/
def teardown (p : Pool) : Nat × Pool :=
  let (failures, p) := (List.range p.workers.length).foldl terminateNext (0, p)
  (failures, ({ p with waiting := [], ready := p.ready ++ p.waiting.map .look } : Pool).settle)

/-! ### Time -/

/-- Ends the invocation on a worker if its time is up. -/
def expireWorker (p : Pool) (i : Nat) : Pool :=
  match (p.workers[i]?).bind Worker.running? with
  | some inv =>
    if deadlineAfter inv.started (some p.settings.workerTimeout) ≤ p.clock then
      p.finish i inv.call (.reply (.canonical .requestTimeout))
    else p
  | none => p

/-- Ends those of some calls that have waited long enough. -/
def expireWaiting (which : Waiter → Bool) (p : Pool) : Pool :=
  let (due, rest) := p.waiting.partition fun d => d.deadline ≤ p.clock && which d
  ({ p with waiting := rest } : Pool).notes
    (due.map fun d => .ended d.call (.reply (.canonical .serviceUnavailable)))

/-- The invocations end whose time is up. -/
def expireWorkers (p : Pool) : Pool :=
  ((List.range p.workers.length).foldl expireWorker p).settle

/-- What happens at the present moment because time is up: invocations end first, then waits. -/
def expire (p : Pool) : Pool := p.expireWorkers.expireWaiting fun _ => true

/-- The moments at which time is up for somebody. -/
def deadlines (p : Pool) : List Nat :=
  (p.workers.filterMap fun w =>
    w.running?.map fun inv => deadlineAfter inv.started (some p.settings.workerTimeout)) ++
  p.waiting.map (·.deadline)

/-- A number of milliseconds, at most `n`, in which time is up for nobody. -/
def quiet (p : Pool) (n : Nat) : Nat :=
  p.deadlines.foldl (fun m d => min m (d - p.clock - 1)) n

/-- Time passes, up to each moment at which time is up for somebody. -/
def advance (p : Pool) (n : Nat) : Pool :=
  let q := p.quiet n
  if n ≤ q then { p with clock := p.clock + n }
  else ({ p with clock := p.clock + q + 1 } : Pool).expire.advance (n - q - 1)
termination_by n
decreasing_by omega

/-- Does an action. -/
def step (p : Pool) (a : Action) : Answer × Pool :=
  let p : Pool := { p with effects := [] }
  match a with
  | .dispatch c => (.ok, p.dispatch c)
  | .handle i c => (.ok, p.handle i c)
  | .tryHandle i c => (.ok, p.tryHandle i c)
  | .cancel name => p.cancel name
  | .stdout i data => p.stdout i data
  | .stderr i data => p.stderr i data
  | .closeStdin i => (.ok, p.closeStdin i)
  | .exit i => p.exit i
  | .advance ms => (.ok, p.advance ms)
  | .terminate i =>
    let (result, p) := p.terminate i
    (.ofTerminated result, p)
  | .teardown =>
    let (failures, p) := p.teardown
    (.failures failures, p)

/-- The names of the calls that have not ended. -/
def pending (p : Pool) : List String :=
  p.workers.flatMap (fun w =>
    (w.running?.map (·.call.name)).toList ++ w.queue.map (·.name)) ++
  p.waiting.map (·.call.name)

end Pool

end FunctionHost
