import FunctionHost.Pool.Action
/-!
# The parts of a pool after an operation

What notes, a changed worker, a wake-up, a release and an end of a call do to each part of a pool.
After this module nobody opens `wake`, `release` or `finish`.
-/

namespace FunctionHost

/-- A worker that passes to the first call in its queue, or becomes free. -/
def Worker.passedOn (w : Worker) : Worker :=
  match w.queue with
  | [] => { w with hold := .free }
  | c :: cs => { w with hold := .granted c, queue := cs }

/-- The turn that a worker's passing on sets off. -/
def Worker.grantTurns (w : Worker) (i : Nat) : List Turn :=
  match w.queue with
  | [] => []
  | _ :: _ => [.start i]

/-- A worker whose interpreter has been sent the statements of a call. -/
def Worker.seizedBy (w : Worker) (c : Call) (now : Nat) : Worker :=
  { w with
    written := w.written ++ Pool.textFor w c
    bootstrapped := true
    hold := .running (Pool.opening c now) }

namespace Worker

variable (w : Worker)

@[simp] theorem alive_passedOn : w.passedOn.alive = w.alive := by
  unfold passedOn; split <;> rfl

@[simp] theorem reading_passedOn : w.passedOn.reading = w.reading := by
  unfold passedOn; split <;> rfl

@[simp] theorem terminated_passedOn : w.passedOn.terminated = w.terminated := by
  unfold passedOn; split <;> rfl

@[simp] theorem unread_passedOn : w.passedOn.unread = w.unread := by
  unfold passedOn; split <;> rfl

@[simp] theorem outWaiting_passedOn : w.passedOn.outWaiting = w.outWaiting := by
  unfold passedOn; split <;> rfl

@[simp] theorem written_passedOn : w.passedOn.written = w.written := by
  unfold passedOn; split <;> rfl

@[simp] theorem bootstrapped_passedOn : w.passedOn.bootstrapped = w.bootstrapped := by
  unfold passedOn; split <;> rfl

/-- A worker that was passed on has no invocation in progress. -/
theorem hold_passedOn_ne_running (inv : Invocation) : w.passedOn.hold ≠ .running inv := by
  unfold passedOn; split <;> simp

/-- Nobody waits for a worker that became free. -/
theorem queue_passedOn_of_free (h : w.passedOn.hold = .free) : w.passedOn.queue = [] := by
  unfold passedOn at *
  split at h
  · assumption
  · simp at h

end Worker

namespace Pool

variable (p : Pool)

/-! ### Notes -/

@[simp] theorem workers_note (e : Effect) : (p.note e).workers = p.workers := rfl
@[simp] theorem waiting_note (e : Effect) : (p.note e).waiting = p.waiting := rfl
@[simp] theorem ready_note (e : Effect) : (p.note e).ready = p.ready := rfl
@[simp] theorem effects_note (e : Effect) : (p.note e).effects = p.effects ++ [e] := rfl
@[simp] theorem workers_notes (es : List Effect) : (p.notes es).workers = p.workers := rfl
@[simp] theorem waiting_notes (es : List Effect) : (p.notes es).waiting = p.waiting := rfl
@[simp] theorem ready_notes (es : List Effect) : (p.notes es).ready = p.ready := rfl
@[simp] theorem effects_notes (es : List Effect) : (p.notes es).effects = p.effects ++ es := rfl

/-! ### A changed worker -/

section

variable (i : Nat) (w : Worker)

@[simp] theorem workers_setWorker : (p.setWorker i w).workers = p.workers.set i w := rfl
@[simp] theorem waiting_setWorker : (p.setWorker i w).waiting = p.waiting := rfl
@[simp] theorem ready_setWorker : (p.setWorker i w).ready = p.ready := rfl
@[simp] theorem effects_setWorker : (p.setWorker i w).effects = p.effects := rfl

theorem setWorker_setWorker (v : Worker) :
    (p.setWorker i v).setWorker i w = p.setWorker i w := by
  simp [setWorker]

end

theorem setWorker_self {p : Pool} {i : Nat} {w : Worker} (h : p.workers[i]? = some w) :
    p.setWorker i w = p := by
  obtain ⟨hi, rfl⟩ := List.getElem?_eq_some_iff.1 h
  simp [setWorker]

/-- When one worker is changed, each worker is this one or as it was. -/
theorem worker_of_set {p q : Pool} {i j : Nat} {u v : Worker} (hws : q.workers = p.workers.set i v)
    (hu : q.workers[j]? = some u) : j = i ∧ u = v ∨ j ≠ i ∧ p.workers[j]? = some u := by
  rw [hws, List.getElem?_set] at hu
  split at hu
  next hij =>
    split at hu
    · exact .inl ⟨hij.symm, (Option.some.inj hu).symm⟩
    · cases hu
  next hij => exact .inr ⟨Ne.symm hij, hu⟩

/-! ### A call that begins -/

section

variable (i : Nat) (w : Worker) (c : Call)

theorem workers_seize : (p.seize i w c).workers = p.workers.set i (w.seizedBy c p.clock) := rfl

@[simp] theorem waiting_seize : (p.seize i w c).waiting = p.waiting := rfl
@[simp] theorem ready_seize : (p.seize i w c).ready = p.ready := rfl

theorem effects_seize :
    (p.seize i w c).effects = p.effects ++ [.obtained i c, .wrote i (textFor w c)] := by
  simp [seize]

end

/-! ### Wake-ups -/

/-- The turn of the call that a wake-up reaches. -/
def wokenTurns (ds : List Waiter) : List Turn := (ds.head?.map Turn.look).toList

@[simp] theorem waiting_wake : p.wake.waiting = p.waiting.tail := by
  unfold wake; split <;> simp_all

@[simp] theorem ready_wake : p.wake.ready = p.ready ++ wokenTurns p.waiting := by
  unfold wake wokenTurns; split <;> simp_all

@[simp] theorem effects_wake : p.wake.effects = p.effects := by
  unfold wake; split <;> rfl

@[simp] theorem clock_wake : p.wake.clock = p.clock := by
  unfold wake; split <;> rfl

/-! ### Releases and ends -/

theorem release_eq {p : Pool} {i : Nat} {w : Worker} (h : p.workers[i]? = some w) :
    p.release i =
      ({ p.setWorker i w.passedOn with ready := p.ready ++ w.grantTurns i } : Pool).wake := by
  cases hq : w.queue with
  | nil => simp [release, h, hq, Worker.passedOn, Worker.grantTurns, setWorker]
  | cons c cs => simp [release, h, hq, Worker.passedOn, Worker.grantTurns, setWorker]

section

variable {p} {i : Nat} {w : Worker} (h : p.workers[i]? = some w)
include h

theorem workers_release : (p.release i).workers = p.workers.set i w.passedOn := by
  rw [release_eq h]; simp

theorem waiting_release : (p.release i).waiting = p.waiting.tail := by
  rw [release_eq h]; simp

theorem ready_release :
    (p.release i).ready = p.ready ++ w.grantTurns i ++ wokenTurns p.waiting := by
  rw [release_eq h]; simp

theorem effects_release : (p.release i).effects = p.effects := by
  rw [release_eq h]; simp

variable (c : Call) (o : Outcome)

theorem workers_finish : (p.finish i c o).workers = p.workers.set i w.passedOn :=
  workers_release (p := p.note _) h

theorem waiting_finish : (p.finish i c o).waiting = p.waiting.tail :=
  waiting_release (p := p.note _) h

theorem ready_finish :
    (p.finish i c o).ready = p.ready ++ w.grantTurns i ++ wokenTurns p.waiting :=
  ready_release (p := p.note _) h

theorem effects_finish : (p.finish i c o).effects = p.effects ++ [.ended c o] :=
  effects_release (p := p.note _) h

end

/-! ### Ends on a changed worker -/

section

variable {p} {i : Nat} {w : Worker} (h : p.workers[i]? = some w) (v : Worker) (c : Call)
  (o : Outcome)
include h

theorem workers_finish_setWorker :
    ((p.setWorker i v).finish i c o).workers = p.workers.set i v.passedOn := by
  rw [workers_finish (getElem?_setWorker h v), workers_setWorker, List.set_set]

theorem effects_finish_setWorker :
    ((p.setWorker i v).finish i c o).effects = p.effects ++ [.ended c o] :=
  effects_finish (getElem?_setWorker h v) c o

variable (es : List Effect) (e : Effect)

theorem workers_finish_notes :
    ((((p.notes es).setWorker i v).note e).finish i c o).workers = p.workers.set i v.passedOn :=
  workers_finish_setWorker (p := (p.notes es).note e) h v c o

theorem effects_finish_notes : ((((p.notes es).setWorker i v).note e).finish i c o).effects =
    p.effects ++ (es ++ [e, .ended c o]) := by
  refine (effects_finish_setWorker (p := (p.notes es).note e) h v c o).trans ?_
  rw [effects_note, effects_notes, List.append_assoc, List.append_assoc]
  rfl

end

/-! ### An invocation that reads -/

section

variable {p} {i : Nat} {w : Worker} (hw : p.workers[i]? = some w)
include hw

theorem proceed_of_not_running (h : ∀ inv, w.hold ≠ .running inv) : p.proceed i = p := by
  unfold proceed
  rw [hw]
  dsimp only
  split
  next inv hinv => exact absurd hinv (h inv)
  next => rfl

/-- What an invocation comes to that reads the output there is: its reply is complete, the output has
ended, its time is up, or it goes on. -/
theorem proceed_cases {inv : Invocation} (hinv : w.hold = .running inv) :
    let r := inv.decoder.run w.unread
    let q := p.notes (r.complaints.map .complained)
    let v : Worker := { w with unread := r.rest }
    p.proceed i = ((q.setWorker i v).note (.completed i inv.call r.decoder.reply)).finish i inv.call
        (.reply r.decoder.reply) ∨
      w.alive = false ∧ p.proceed i =
        (q.setWorker i { v with terminated := true }).finish i inv.call (.failed (.closed i)) ∨
      p.proceed i = (q.setWorker i v).finish i inv.call (.reply (.canonical .requestTimeout)) ∨
      p.proceed i = q.setWorker i { v with hold := .running { inv with decoder := r.decoder } } := by
  intro r q v
  unfold proceed
  rw [hw]
  dsimp only
  split
  next inv' hinv' =>
    obtain rfl := Hold.running.inj (hinv.symm.trans hinv')
    split
    · exact .inl rfl
    · split
      next ha => exact .inr (.inl ⟨by simpa using ha, rfl⟩)
      next =>
        split
        · exact .inr (.inr (.inl rfl))
        · exact .inr (.inr (.inr rfl))
  next hno => exact absurd hinv (hno inv)

end

/-- Who had a worker does not matter when it is released. -/
theorem release_setWorker_hold {p : Pool} {i : Nat} {v : Worker} (h : p.workers[i]? = some v)
    (w : Worker) (k : Hold) :
    (p.setWorker i { w with hold := k }).release i = (p.setWorker i w).release i := by
  unfold release
  simp only [getElem?_setWorker h, setWorker_setWorker]

theorem finish_setWorker_hold {p : Pool} {i : Nat} {v : Worker} (h : p.workers[i]? = some v)
    (w : Worker) (k : Hold) (c : Call) (o : Outcome) :
    (p.setWorker i { w with hold := k }).finish i c o = (p.setWorker i w).finish i c o :=
  release_setWorker_hold (p := p.note (.ended c o)) h w k

end Pool

end FunctionHost
