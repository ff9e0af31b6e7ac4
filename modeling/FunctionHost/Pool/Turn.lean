import FunctionHost.Pool.Basic
import FunctionHost.Reply.Reading
/-!
# Turns

How a worker passes from call to call. A call that gets a worker writes its statements and reads
what output there is (`start`, `proceed`); when it ends, the first call in the worker's queue is
granted the worker, and then one call of the waiting line is woken (`release`). A woken call takes
the first free worker, or waits again behind the others (`look`). `settle` runs the turns in the
order in which they were set off.

Two things are assumed. One task runs at a time, up to where it waits: a call that finds no free
worker stands in the waiting line before anything else happens, which threads that run tasks side by
side do not promise. And an interpreter that reads its input takes in at once what is written to it,
so that a turn takes no time; no time limit covers a write.

Main statement: `weight_turn_lt`, every turn leaves less to settle: a call that begins sets off two
turns at most, and any other turn sets off none. So settling ends.
-/

namespace FunctionHost.Pool

open FunctionHost.Http

/-- Records what is seen. -/
def note (p : Pool) (e : Effect) : Pool := { p with effects := p.effects ++ [e] }

/-- Records several things that are seen. -/
def notes (p : Pool) (es : List Effect) : Pool := { p with effects := p.effects ++ es }

/-- Replaces a worker. -/
def setWorker (p : Pool) (i : Nat) (w : Worker) : Pool := { p with workers := p.workers.set i w }

/-- Wakes the call that has waited longest; if nobody waits, one wake-up is kept. -/
def wake (p : Pool) : Pool :=
  match p.waiting with
  | [] => { p with permit := true }
  | d :: ds => { p with waiting := ds, ready := p.ready ++ [.look d] }

/-- A worker passes to the first call in its queue, or becomes free; then one waiting call is
woken. -/
def release (p : Pool) (i : Nat) : Pool :=
  match p.workers[i]? with
  | none => p
  | some w =>
    match w.queue with
    | [] => (p.setWorker i { w with hold := .free }).wake
    | c :: cs =>
      let p := p.setWorker i { w with hold := .granted c, queue := cs }
      ({ p with ready := p.ready ++ [.start i] } : Pool).wake

/-- The call that has a worker ends. -/
def finish (p : Pool) (i : Nat) (c : Call) (o : Outcome) : Pool := (p.note (.ended c o)).release i

/-- The invocation in progress reads the output there is. It ends if its reply is complete, if the
output has ended, or if its time is up. -/
def proceed (p : Pool) (i : Nat) : Pool :=
  match p.workers[i]? with
  | none => p
  | some w =>
    match w.hold with
    | .running inv =>
      let r := inv.decoder.run w.unread
      let p := p.notes (r.complaints.map .complained)
      let w := { w with unread := r.rest }
      if r.done then
        ((p.setWorker i w).note (.completed i inv.call r.decoder.reply)).finish i inv.call
          (.reply r.decoder.reply)
      else if !w.alive then
        (p.setWorker i { w with terminated := true }).finish i inv.call (.failed (.closed i))
      else if deadlineAfter inv.started (some p.settings.workerTimeout) ≤ p.clock then
        (p.setWorker i w).finish i inv.call (.reply (.canonical .requestTimeout))
      else p.setWorker i { w with hold := .running { inv with decoder := r.decoder } }
    | _ => p

/-- The text that a call writes to a worker. -/
def textFor (w : Worker) (c : Call) : String :=
  (if w.bootstrapped then "" else Call.bootstrap c.module) ++ c.text

/-- The invocation of a call that begins at a time. -/
def opening (c : Call) (now : Nat) : Invocation := ⟨c, now, { requestId := c.event.requestId }⟩

/-- A call gets a worker that reads its input, and writes its statements. -/
def seize (p : Pool) (i : Nat) (w : Worker) (c : Call) : Pool :=
  ((p.note (.obtained i c)).setWorker i { w with
    written := w.written ++ textFor w c
    bootstrapped := true
    hold := .running (opening c p.clock) }).note (.wrote i (textFor w c))

/-- A call gets a worker. -/
def start (p : Pool) (i : Nat) (c : Call) : Pool :=
  match p.workers[i]? with
  | none => p
  | some w =>
    if w.reading then (p.seize i w c).proceed i
    else (p.note (.obtained i c)).finish i c (.failed (.write i))

/-- The first free worker. -/
def freeWorker? (p : Pool) : Option Nat := p.workers.findIdx? Worker.isFree

/-- A call looks for a free worker. If there is none it waits behind the others, unless no worker
is left or its time is up; a wake-up that was kept is used up. -/
def look (p : Pool) (d : Waiter) : Pool :=
  match p.freeWorker? with
  | some i => p.start i d.call
  | none =>
    if p.workers.all (·.terminated) then
      p.note (.ended d.call (.reply (.canonical .serviceUnavailable)))
    else if d.deadline ≤ p.clock then
      ({ p with permit := false } : Pool).note
        (.ended d.call (.reply (.canonical .serviceUnavailable)))
    else { p with permit := false, waiting := p.waiting ++ [d] }

/-- Takes a turn. -/
def turn (p : Pool) : Turn → Pool
  | .start i =>
    match (p.workers[i]?).map Worker.hold with
    | some (.granted c) => p.start i c
    | _ => p
  | .look d => p.look d

/-! ### Settling ends -/

/-- One for a grant to a call that has not begun. -/
def grants : Hold → Nat
  | .granted _ => 1
  | _ => 0

@[simp] theorem grants_free : grants .free = 0 := rfl

@[simp] theorem grants_granted (c : Call) : grants (.granted c) = 1 := rfl

@[simp] theorem grants_running (inv : Invocation) : grants (.running inv) = 0 := rfl

/-- The calls on a worker that have not begun. -/
def idleOn (w : Worker) : Nat := w.queue.length + grants w.hold

/-- The calls on all workers that have not begun. -/
def idleIn (ws : List Worker) : Nat := (ws.map idleOn).foldr Nat.add 0

/-- The woken calls among turns. -/
def looks (ts : List Turn) : Nat :=
  ts.countP fun
    | .look _ => true
    | .start _ => false

/-- The calls that have not begun. -/
def idle (p : Pool) : Nat := idleIn p.workers + p.waiting.length + looks p.ready

/-- What is left to settle: a call that begins sets off two turns at most. -/
def weight (p : Pool) : Nat := 2 * p.idle + p.ready.length

theorem idleIn_set {ws : List Worker} {i : Nat} {w : Worker} (h : ws[i]? = some w) (w' : Worker) :
    idleIn (ws.set i w') + idleOn w = idleIn ws + idleOn w' := by
  induction ws generalizing i with
  | nil => simp at h
  | cons a ws ih =>
    cases i with
    | zero =>
      simp only [List.getElem?_cons_zero, Option.some.injEq] at h
      subst h
      simp only [idleIn, List.set_cons_zero, List.map_cons, List.foldr_cons, Nat.add_eq]
      omega
    | succ i =>
      simp only [List.getElem?_cons_succ] at h
      have := ih h
      simp only [idleIn, List.set_cons_succ, List.map_cons, List.foldr_cons, Nat.add_eq] at this ⊢
      omega

@[simp] theorem looks_append (a b : List Turn) : looks (a ++ b) = looks a + looks b := by
  simp [looks, List.countP_append]

@[simp] theorem looks_look (d : Waiter) : looks [.look d] = 1 := rfl

@[simp] theorem looks_start (i : Nat) : looks [.start i] = 0 := rfl

@[simp] theorem workers_wake (p : Pool) : p.wake.workers = p.workers := by
  unfold wake; split <;> rfl

theorem weight_wake (p : Pool) : p.wake.weight ≤ p.weight + 1 := by
  unfold wake
  split
  · exact Nat.le_succ _
  · simp_all [weight, idle]
    omega

@[simp] theorem weight_note (p : Pool) (e : Effect) : (p.note e).weight = p.weight := rfl

@[simp] theorem weight_notes (p : Pool) (es : List Effect) : (p.notes es).weight = p.weight := rfl

theorem weight_setWorker {p : Pool} {i : Nat} {w : Worker} (h : p.workers[i]? = some w)
    (w' : Worker) : (p.setWorker i w').weight + 2 * idleOn w = p.weight + 2 * idleOn w' := by
  have := idleIn_set h w'
  simp only [weight, idle, setWorker]
  omega

theorem getElem?_setWorker {p : Pool} {i : Nat} {w : Worker} (h : p.workers[i]? = some w)
    (w' : Worker) : (p.setWorker i w').workers[i]? = some w' := by
  have hi : i < p.workers.length := (List.getElem?_eq_some_iff.1 h).1
  simp [setWorker, hi]

/-- Releasing a worker ends its grant and sets off two turns at most. -/
theorem weight_release {p : Pool} {i : Nat} {w : Worker} (h : p.workers[i]? = some w) :
    (p.release i).weight + 2 * grants w.hold ≤ p.weight + 2 := by
  unfold release
  simp only [h]
  split
  next hq =>
    have := weight_setWorker h { w with hold := .free }
    have := weight_wake (p.setWorker i { w with hold := .free })
    simp only [idleOn, hq, grants_free, List.length_nil] at *
    omega
  next c cs hq =>
    have := weight_setWorker h { w with hold := .granted c, queue := cs }
    refine Nat.le_trans (Nat.add_le_add_right (weight_wake _) _) ?_
    simp only [idleOn, hq, grants_granted, List.length_cons, weight, idle, looks_append,
      looks_start, List.length_append, List.length_nil] at *
    omega

theorem weight_finish {p : Pool} {i : Nat} {w : Worker} (h : p.workers[i]? = some w) (c : Call)
    (o : Outcome) : (p.finish i c o).weight + 2 * grants w.hold ≤ p.weight + 2 :=
  weight_release (p := p.note (.ended c o)) h

/-- An invocation that reads sets off two turns at most. -/
theorem weight_proceed (p : Pool) (i : Nat) : (p.proceed i).weight ≤ p.weight + 2 := by
  unfold proceed
  split
  next => exact Nat.le_add_right _ _
  next w h =>
    split
    next inv hinv =>
      have key : ∀ (es : List Effect) (w' : Worker), w'.queue = w.queue → grants w'.hold = 0 →
          ((p.notes es).setWorker i w').weight = p.weight ∧
            ((p.notes es).setWorker i w').workers[i]? = some w' := fun es w' hq hg => by
        have h' : (p.notes es).workers[i]? = some w := h
        have := weight_setWorker h' w'
        simp only [idleOn, hq, hg, hinv, grants_running, weight_notes] at this
        exact ⟨by omega, getElem?_setWorker h' w'⟩
      have ends : ∀ (es fs : List Effect) (w' : Worker) (o : Outcome), w'.queue = w.queue →
          grants w'.hold = 0 →
            ((((p.notes es).setWorker i w').notes fs).finish i inv.call o).weight
              ≤ p.weight + 2 := fun es fs w' o hq hg => by
        obtain ⟨hweight, hget⟩ := key es w' hq hg
        have := weight_finish (p := ((p.notes es).setWorker i w').notes fs) hget inv.call o
        simp only [weight_notes, hweight] at this
        omega
      have ends' : ∀ (es : List Effect) (w' : Worker) (o : Outcome), w'.queue = w.queue →
          grants w'.hold = 0 →
            (((p.notes es).setWorker i w').finish i inv.call o).weight ≤ p.weight + 2 :=
        fun es w' o hq hg => by
          obtain ⟨hweight, hget⟩ := key es w' hq hg
          have := weight_finish hget inv.call o
          omega
      dsimp only
      split
      · exact ends _ [_] _ _ rfl (by simp [hinv])
      · split
        · exact ends' _ _ _ rfl (by simp [hinv])
        · split
          · exact ends' _ _ _ rfl (by simp [hinv])
          · have := (key ((inv.decoder.run w.unread).complaints.map .complained)
              { w with
                unread := (inv.decoder.run w.unread).rest
                hold := .running { inv with decoder := (inv.decoder.run w.unread).decoder } }
              rfl rfl).1
            omega
    next => exact Nat.le_add_right _ _

/-- A call that begins is counted no longer if the worker was granted to it. -/
theorem weight_start {p : Pool} {i : Nat} {w : Worker} (h : p.workers[i]? = some w) (c : Call) :
    (p.start i c).weight + 2 * grants w.hold ≤ p.weight + 2 := by
  unfold start
  simp only [h]
  split
  · have := weight_setWorker (p := p.note (.obtained i c)) h
      { w with
        written := w.written ++ textFor w c, bootstrapped := true,
        hold := .running (opening c p.clock) }
    have := weight_proceed (p.seize i w c) i
    simp only [idleOn, grants_running, seize, weight_note] at *
    omega
  · exact weight_finish (p := p.note (.obtained i c)) h c _

/-- A call that looks for a worker begins, ends, or waits. -/
theorem weight_look (p : Pool) (d : Waiter) : (p.look d).weight ≤ p.weight + 2 := by
  unfold look
  split
  next i hi =>
    obtain ⟨hlt, -⟩ := List.findIdx?_eq_some_iff_getElem.1 hi
    have := weight_start (List.getElem?_eq_getElem hlt) d.call
    omega
  next =>
    split
    · exact Nat.le_add_right _ _
    · split
      · exact Nat.le_add_right _ _
      · simp [weight, idle]
        omega

/-- Every turn leaves less to settle. -/
theorem weight_turn_lt {p : Pool} {t : Turn} {ts : List Turn} (h : p.ready = t :: ts) :
    (({ p with ready := ts } : Pool).turn t).weight < p.weight := by
  cases t with
  | start i =>
    have hp : ({ p with ready := ts } : Pool).weight + 1 = p.weight := by
      simp [weight, idle, h, looks]
      omega
    unfold turn
    simp only []
    split
    next c hc =>
      obtain ⟨w, hw, hg⟩ := Option.map_eq_some_iff.1 hc
      have := weight_start (p := { p with ready := ts }) hw c
      simp only [hg, grants_granted] at this
      omega
    next => omega
  | look d =>
    have hp : ({ p with ready := ts } : Pool).weight + 3 = p.weight := by
      simp [weight, idle, h, looks]
      omega
    have := weight_look { p with ready := ts } d
    simp only [turn]
    omega

/-- Takes turns until there are none. -/
def settle (p : Pool) : Pool :=
  match _h : p.ready with
  | [] => p
  | t :: ts => (({ p with ready := ts } : Pool).turn t).settle
termination_by p.weight
decreasing_by exact weight_turn_lt _h

end FunctionHost.Pool
