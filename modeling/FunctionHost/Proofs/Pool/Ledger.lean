import FunctionHost.Proofs.Pool.Shape
/-!
# The ledger of calls

No call is lost and none is held twice. The calls that a pool holds are those that have or wait for
a worker and those that were woken (`calls`); every change either keeps them, or one comes in, or one
ends, or some are dropped (`Accounts`). Added up over a run (`Ledger`), what was made is what is
held, what ended and what was dropped, each call as often as it was made; and what got a worker runs
there, or ended, or was dropped.

Main statement: `ledger_after`, the ledger is right after every run.
-/

namespace FunctionHost

/-- The call that has a worker. -/
def Hold.calls : Hold → List Call
  | .free => []
  | .granted c => [c]
  | .running inv => [inv.call]

/-- The calls on a worker: the one that has it, then those that wait for it. -/
def Worker.calls (w : Worker) : List Call := w.hold.calls ++ w.queue

/-- The call of the invocation in progress. -/
def Worker.call? (w : Worker) : Option Call := w.running?.map (·.call)

/-- The call that a turn is for, unless it is on a worker. -/
def Turn.calls : Turn → List Call
  | .start _ => []
  | .look d => [d.call]

/-- A worker that passes on is left with the calls that waited for it. -/
theorem Worker.calls_passedOn (w : Worker) : w.passedOn.calls = w.queue := by
  unfold Worker.passedOn
  split <;> simp_all [Worker.calls, Hold.calls]

theorem Worker.call?_passedOn (w : Worker) : w.passedOn.call? = none := by
  unfold Worker.passedOn
  split <;> rfl

theorem Worker.call?_eq_some_iff {w : Worker} {c : Call} :
    w.call? = some c ↔ ∃ inv, w.hold = .running inv ∧ inv.call = c := by
  simp [Worker.call?, Pool.running?_eq_some_iff]

/-- A worker is busy exactly if an invocation is in progress on it. -/
theorem Worker.isBusy_iff {w : Worker} : w.isBusy = true ↔ w.call?.isSome = true := by
  unfold Worker.isBusy Worker.call? Worker.running?
  cases w.hold <;> simp

namespace Pool

open scoped List

/-- The calls on workers. -/
def callsOn (ws : List Worker) : List Call := ws.flatMap Worker.calls

/-- The calls that a pool holds. -/
def calls (p : Pool) : List Call :=
  callsOn p.workers ++ (p.waiting.map (·.call) ++ p.ready.flatMap Turn.calls)

/-- The call in progress on worker `i`. -/
def callOn (p : Pool) (i : Nat) : Option Call := (p.workers[i]?).bind Worker.call?

/-- The calls that end. -/
def endings (es : List Effect) : List Call :=
  es.filterMap fun
    | .ended c _ => some c
    | _ => none

@[simp] theorem endings_append (es fs : List Effect) :
    endings (es ++ fs) = endings es ++ endings fs := by
  simp [endings]

theorem mem_endings_iff {es : List Effect} {c : Call} :
    c ∈ endings es ↔ ∃ o, .ended c o ∈ es := by
  unfold endings
  rw [List.mem_filterMap]
  constructor
  · rintro ⟨e, he, hc⟩
    cases e with
    | ended c' o =>
      cases hc
      exact ⟨o, he⟩
    | _ => simp at hc
  · rintro ⟨o, ho⟩
    exact ⟨_, ho, rfl⟩

/-! ### Counting the calls that are held -/

theorem count_callsOn_set {ws : List Worker} {i : Nat} {w : Worker} (h : ws[i]? = some w)
    (v : Worker) (x : Call) :
    (callsOn (ws.set i v)).count x + w.calls.count x = (callsOn ws).count x + v.calls.count x := by
  induction ws generalizing i with
  | nil => simp at h
  | cons a ws ih =>
    cases i with
    | zero =>
      simp only [List.getElem?_cons_zero, Option.some.injEq] at h
      subst h
      simp only [callsOn, List.set_cons_zero, List.flatMap_cons, List.count_append]
      omega
    | succ i =>
      simp only [List.getElem?_cons_succ] at h
      have := ih h
      simp only [callsOn, List.set_cons_succ, List.flatMap_cons, List.count_append] at this ⊢
      omega

theorem length_callsOn_set {ws : List Worker} {i : Nat} {w : Worker} (h : ws[i]? = some w)
    (v : Worker) :
    (callsOn (ws.set i v)).length + w.calls.length = (callsOn ws).length + v.calls.length := by
  have hperm : callsOn (ws.set i v) ++ w.calls ~ callsOn ws ++ v.calls :=
    List.perm_iff_count.2 fun x => by
      rw [List.count_append, List.count_append]
      exact count_callsOn_set h v x
  rw [← List.length_append, ← List.length_append]
  exact hperm.length_eq

theorem count_calls (p : Pool) (x : Call) :
    p.calls.count x = (callsOn p.workers).count x + (p.waiting.map (·.call)).count x +
      (p.ready.flatMap Turn.calls).count x := by
  rw [calls, List.count_append, List.count_append, Nat.add_assoc]

theorem calls_grantTurns (w : Worker) (i : Nat) : (w.grantTurns i).flatMap Turn.calls = [] := by
  unfold Worker.grantTurns
  split <;> rfl

theorem calls_looks (ds : List Waiter) :
    (ds.map Turn.look).flatMap Turn.calls = ds.map (·.call) := by
  induction ds with
  | nil => rfl
  | cons d ds ih => rw [List.map_cons, List.flatMap_cons, ih]; rfl

/-- A woken call is held as a turn in place of its place in the line. -/
theorem calls_wokenTurns (ds : List Waiter) :
    (wokenTurns ds).flatMap Turn.calls ++ ds.tail.map (·.call) = ds.map (·.call) := by
  cases ds with
  | nil => rfl
  | cons d ds => rfl

section

variable {p q : Pool} {i : Nat} {w v : Worker}

theorem count_calls_set (hw : p.workers[i]? = some w) (hws : q.workers = p.workers.set i v)
    (hwait : q.waiting = p.waiting) (hready : q.ready = p.ready) (x : Call) :
    q.calls.count x + w.calls.count x = p.calls.count x + v.calls.count x := by
  have := count_callsOn_set hw v x
  rw [count_calls, count_calls, hws, hwait, hready]
  omega

/-- A worker that passes on gives up the call that has it, and nothing else. -/
theorem count_calls_of_passedOn (hw : p.workers[i]? = some w)
    (hv : v.queue = w.queue) (hws : q.workers = p.workers.set i v.passedOn)
    (hwait : q.waiting = p.waiting.tail)
    (hready : q.ready = p.ready ++ v.grantTurns i ++ wokenTurns p.waiting) (x : Call) :
    q.calls.count x + w.hold.calls.count x = p.calls.count x := by
  have hset := count_callsOn_set hw v.passedOn x
  rw [v.calls_passedOn, hv, Worker.calls, List.count_append] at hset
  have hwoken := congrArg (List.count x) (calls_wokenTurns p.waiting)
  rw [List.count_append] at hwoken
  rw [count_calls, count_calls, hws, hwait, hready, List.flatMap_append, List.flatMap_append,
    calls_grantTurns, List.append_nil, List.count_append]
  omega

/-- Who has a worker for which a call comes is that call, or nobody. -/
theorem Comes.call? {c : Call} (hc : Comes p i c q) (hw : q.workers[i]? = some w) :
    w.call? = none := by
  rw [hc.workers] at hw
  cases hc with
  | granted _ hv hg =>
    rw [Option.some.inj (hw.symm.trans hv)]
    simp [Worker.call?, Worker.running?, hg]
  | woken _ hf _ =>
    obtain ⟨v, hv, hfree⟩ := isFree_of_freeWorker? hf
    rw [Option.some.inj (hw.symm.trans hv)]
    simp [Worker.call?, Worker.running?, (isFree_iff.1 hfree).2]

theorem count_calls_of_comes {c : Call} (hc : Comes p i c q) (hw : q.workers[i]? = some w)
    (x : Call) :
    p.calls.count x + w.hold.calls.count x = q.calls.count x + [c].count x := by
  rw [hc.workers] at hw
  cases hc with
  | granted hr hv hg =>
    rw [Option.some.inj (hw.symm.trans hv), hg, count_calls, count_calls, hr]
    simp [Hold.calls, Turn.calls]
  | woken hr hf hd =>
    obtain ⟨v, hv, hfree⟩ := isFree_of_freeWorker? hf
    rw [Option.some.inj (hw.symm.trans hv), (isFree_iff.1 hfree).2, count_calls, count_calls, hr,
      ← hd]
    simp only [List.flatMap_cons, Turn.calls, Hold.calls, List.count_append, List.count_nil]
    omega

theorem callOn_set (hw : p.workers[i]? = some w) (hws : q.workers = p.workers.set i v) (j : Nat) :
    q.callOn j = if j = i then v.call? else p.callOn j := by
  unfold callOn
  rw [hws]
  by_cases hj : j = i
  · subst hj
    rw [if_pos rfl, List.getElem?_set_self (List.getElem?_eq_some_iff.1 hw).1]
    rfl
  · rw [if_neg hj, List.getElem?_set_ne (Ne.symm hj)]

theorem callOn_eq (hw : p.workers[i]? = some w) : p.callOn i = w.call? := by
  rw [callOn, hw, Option.bind_some]

end

/-! ### What a change does to the calls -/

/-- A change of a pool in which the calls `new` come in, the calls `out` are dropped, and `fs` is
seen. -/
structure Accounts (p : Pool) (new out : List Call) (fs : List Effect) (q : Pool) : Prop where
  /-- What is seen. -/
  effects : q.effects = p.effects ++ fs
  /-- What comes in stays, ends, or is dropped. -/
  balance : ∀ x, q.calls.count x + (endings fs).count x + out.count x =
    p.calls.count x + new.count x
  /-- What is in progress stays so, ends, or is dropped. -/
  keeps : ∀ i c, p.callOn i = some c → q.callOn i = some c ∨ c ∈ endings fs ∨ c ∈ out
  /-- What gets a worker is in progress there, or ends. -/
  begins : ∀ i c, .obtained i c ∈ fs → q.callOn i = some c ∨ c ∈ endings fs
  /-- What is in progress was so, or gets its worker. -/
  began : ∀ i c, q.callOn i = some c → p.callOn i = some c ∨ .obtained i c ∈ fs

section

variable {p q : Pool} {i : Nat} {w v : Worker} {fs : List Effect}

/-- A change that leaves the workers. -/
theorem Accounts.ofWorkers {new out : List Call} (hws : q.workers = p.workers)
    (he : q.effects = p.effects ++ fs) (hno : ∀ i c, .obtained i c ∉ fs)
    (hb : ∀ x, q.calls.count x + (endings fs).count x + out.count x =
      p.calls.count x + new.count x) : Accounts p new out fs q where
  effects := he
  balance := hb
  keeps := fun i c hc => .inl (by unfold callOn at *; rwa [hws])
  begins := fun i c hc => absurd hc (hno i c)
  began := fun i c hc => .inl (by unfold callOn at *; rwa [hws] at hc)

/-- A change of one worker that leaves the call in progress on it. -/
theorem Accounts.ofSet {new out : List Call} (hw : p.workers[i]? = some w)
    (hws : q.workers = p.workers.set i v) (hv : v.call? = w.call?)
    (he : q.effects = p.effects ++ fs) (hno : ∀ i c, .obtained i c ∉ fs)
    (hb : ∀ x, q.calls.count x + (endings fs).count x + out.count x =
      p.calls.count x + new.count x) : Accounts p new out fs q := by
  have hcall : ∀ j, q.callOn j = p.callOn j := by
    intro j
    rw [callOn_set hw hws]
    split
    next hj => rw [hj, hv, callOn_eq hw]
    next => rfl
  refine ⟨he, hb, ?_, fun j c hc => absurd hc (hno j c), ?_⟩
  · intro j c hc
    exact .inl (by rwa [hcall])
  · intro j c hc
    exact .inl (by rwa [hcall] at hc)

/-- A change of one worker that leaves its calls. -/
theorem Accounts.ofSame (hw : p.workers[i]? = some w)
    (hws : q.workers = p.workers.set i v) (hhold : v.hold.calls = w.hold.calls)
    (hqueue : v.queue = w.queue) (hv : v.call? = w.call?) (hwait : q.waiting = p.waiting)
    (hready : q.ready = p.ready) (he : q.effects = p.effects ++ fs)
    (hno : ∀ i c, .obtained i c ∉ fs) (hend : endings fs = []) : Accounts p [] [] fs q := by
  refine .ofSet hw hws hv he hno fun x => ?_
  have := count_calls_set hw hws hwait hready x
  rw [Worker.calls, Worker.calls, hhold, hqueue] at this
  rw [hend, List.count_nil]
  omega

/-- The end of an invocation that is in progress. -/
theorem Accounts.ofPassedOn {inv : Invocation} {out : List Call} (hw : p.workers[i]? = some w)
    (hinv : w.hold = .running inv) (hv : v.queue = w.queue)
    (hws : q.workers = p.workers.set i v.passedOn) (hwait : q.waiting = p.waiting.tail)
    (hready : q.ready = p.ready ++ v.grantTurns i ++ wokenTurns p.waiting)
    (he : q.effects = p.effects ++ fs) (hno : ∀ i c, .obtained i c ∉ fs)
    (hend : endings fs ++ out = [inv.call]) : Accounts p [] out fs q := by
  have hcall : p.callOn i = some inv.call := by
    rw [callOn_eq hw]
    exact Worker.call?_eq_some_iff.2 ⟨inv, hinv, rfl⟩
  refine ⟨he, fun x => ?_, fun j c hc => ?_, fun j c hc => absurd hc (hno j c), fun j c hc => ?_⟩
  · have := count_calls_of_passedOn hw hv hws hwait hready x
    have hx := congrArg (List.count x) hend
    rw [List.count_append] at hx
    rw [hinv] at this
    simp only [Hold.calls, List.count_nil] at this ⊢
    omega
  · rw [callOn_set hw hws]
    split
    next hj =>
      rw [hj, hcall] at hc
      have : c ∈ endings fs ++ out := by
        rw [hend, ← Option.some.inj hc]
        exact List.mem_singleton_self _
      exact .inr (List.mem_append.1 this)
    next => exact .inl hc
  · rw [callOn_set hw hws] at hc
    split at hc
    · rw [v.call?_passedOn] at hc
      cases hc
    · exact .inl hc

end

/-! ### Moves -/

theorem endings_complaints (bs : List BadStatus) : endings (bs.map .complained) = [] := by
  simp [endings]

theorem endings_said (i : Nat) (ls : List String) : endings (said i ls) = [] := by
  simp [endings, said]

theorem not_mem_said (i : Nat) (ls : List String) (j : Nat) (c : Call) :
    .obtained j c ∉ said i ls := by
  simp [said]

/-- A call that gets a worker and writes to it is in progress there. -/
theorem Accounts.seize {p q : Pool} {i : Nat} {c : Call} {w : Worker} (hc : Comes p i c q)
    (hw : q.workers[i]? = some w) :
    Accounts p [] [] [.obtained i c, .wrote i (textFor w c)] (q.seize i w c) := by
  have hcall := callOn_set hw (workers_seize q i w c)
  have hp : p.callOn = q.callOn := by
    funext j
    unfold callOn
    rw [hc.workers]
  refine ⟨hc.effects_seize w, fun x => ?_, fun j c' hj => ?_, fun j c' hj => ?_,
    fun j c' hj => ?_⟩
  · have hset := count_calls_set hw (workers_seize q i w c) rfl rfl x
    have hcomes := count_calls_of_comes hc hw x
    have hseized : (w.seizedBy c q.clock).calls = [c] ++ w.queue := rfl
    have hend : endings [.obtained i c, .wrote i (textFor w c)] = [] := rfl
    rw [hseized, Worker.calls, List.count_append, List.count_append] at hset
    rw [hend, List.count_nil]
    omega
  · rw [hcall]
    split
    next hji =>
      rw [hji, hp, callOn_eq hw, hc.call? hw] at hj
      cases hj
    next => exact .inl (by rwa [← hp])
  · obtain ⟨rfl, rfl⟩ : j = i ∧ c' = c := by simpa using hj
    rw [hcall, if_pos rfl]
    exact .inl rfl
  · rw [hcall] at hj
    split at hj
    next hji =>
      cases hj
      exact .inr (by simp [hji, opening])
    next => exact .inl (by rwa [hp])

/-- A call that gets a worker in vain ends. -/
theorem Accounts.fail {p q : Pool} {i : Nat} {c : Call} {w : Worker} (hc : Comes p i c q)
    (hw : q.workers[i]? = some w) (o : Outcome) :
    Accounts p [] [] [.obtained i c, .ended c o] ((q.note (.obtained i c)).finish i c o) := by
  have hw' : (q.note (.obtained i c)).workers[i]? = some w := hw
  have hcall := callOn_set hw' (workers_finish hw' c o)
  have hp : p.callOn = (q.note (.obtained i c)).callOn := by
    funext j
    unfold callOn
    rw [workers_note, hc.workers]
  refine ⟨hc.effects_fail hw o, fun x => ?_, fun j c' hj => ?_, fun j c' hj => ?_,
    fun j c' hj => ?_⟩
  · have hend := count_calls_of_passedOn hw' rfl (workers_finish hw' c o)
      (waiting_finish hw' c o) (ready_finish hw' c o) x
    have hcomes := count_calls_of_comes hc hw x
    have hnote : (q.note (.obtained i c)).calls = q.calls := rfl
    have hc : endings [.obtained i c, .ended c o] = [c] := rfl
    rw [hc, List.count_nil]
    rw [hnote] at hend
    omega
  · rw [hcall]
    split
    next hji =>
      rw [hji, hp, callOn_eq hw', hc.call? hw] at hj
      cases hj
    next => exact .inl (by rwa [← hp])
  · obtain ⟨rfl, rfl⟩ : j = i ∧ c' = c := by simpa using hj
    exact .inr (List.mem_singleton_self _)
  · rw [hcall] at hj
    split at hj
    next =>
      rw [Worker.call?_passedOn] at hj
      cases hj
    next => exact .inl (by rwa [hp])

/-- Those whose time is up end, and the others wait on. -/
theorem count_expireWaiting (p : Pool) (which : Waiter → Bool) (x : Call) :
    (p.expireWaiting which).calls.count x +
      (endings ((p.waiting.filter fun d => d.deadline ≤ p.clock && which d).map
        fun d => .ended d.call unavailable)).count x = p.calls.count x := by
  have hend : ∀ ds : List Waiter, endings (ds.map fun d => .ended d.call unavailable) =
      ds.map (·.call) := by
    intro ds
    induction ds with
    | nil => rfl
    | cons d ds ih =>
      rw [List.map_cons, List.map_cons, ← ih]
      rfl
  have hperm := ((List.filter_append_perm (fun d => decide (d.deadline ≤ p.clock) && which d)
    p.waiting).map (·.call)).count_eq x
  rw [List.map_append, List.count_append] at hperm
  rw [hend, count_calls, count_calls]
  simp only [expireWaiting, notes, List.partition_eq_filter_filter]
  simp only [Function.comp_def] at *
  omega

theorem Stir.accounts {p q : Pool} (hm : Stir p q) : ∃ fs, Accounts p [] [] fs q := by
  cases hm with
  | begins hc hw hr => exact ⟨_, .seize hc hw⟩
  | fails hc hw hr => exact ⟨_, .fail hc hw _⟩
  | idles hr hn =>
    refine ⟨[], .ofWorkers rfl (by simp) (by simp) fun x => ?_⟩
    rw [count_calls, count_calls, hr]
    simp [Turn.calls, endings]
  | waits hr hf hd ht =>
    refine ⟨[], .ofWorkers rfl (by simp) (by simp) fun x => ?_⟩
    rw [count_calls, count_calls, hr]
    simp [Turn.calls, endings, List.count_cons]
    omega
  | @turnsAway d ts b hr hf hd =>
    refine ⟨[.ended d.call unavailable], .ofWorkers rfl rfl (by simp) fun x => ?_⟩
    rw [count_calls, count_calls, hr]
    simp [Turn.calls, endings, List.count_cons]
    omega
  | @reads i w inv hw hinv hd =>
    refine ⟨(inv.decoder.run w.unread).complaints.map .complained, .ofSame hw rfl ?_ rfl ?_ rfl rfl
      rfl (by simp) (endings_complaints _)⟩
    · rw [hinv]; rfl
    · simp [Worker.call?, Worker.running?, hinv]
  | @completes i w inv hw hinv hd =>
    set r := inv.decoder.run w.unread
    have hget := getElem?_setWorker
      (p := (p.notes (r.complaints.map .complained)).note (.completed i inv.call r.decoder.reply))
      hw { w with unread := r.rest }
    refine ⟨_, .ofPassedOn (v := { w with unread := r.rest }) hw hinv rfl
      (workers_finish_notes hw _ _ _ _ _) (waiting_finish hget _ _) (ready_finish hget _ _)
      (effects_finish_notes hw _ _ _ _ _) (by simp) ?_⟩
    rw [endings_append, endings_complaints]
    rfl
  | @closes i w inv hw hinv ha hu =>
    have hget := getElem?_setWorker hw { w with terminated := true }
    exact ⟨_, .ofPassedOn (v := { w with terminated := true }) hw hinv rfl
      (workers_finish_setWorker hw _ _ _) (waiting_finish hget _ _) (ready_finish hget _ _)
      (effects_finish_setWorker hw _ _ _) (by simp) rfl⟩
  | expires hw hinv ht =>
    exact ⟨_, .ofPassedOn hw hinv rfl (workers_finish hw _ _) (waiting_finish hw _ _)
      (ready_finish hw _ _) (effects_finish hw _ _) (by simp) rfl⟩
  | givesUp =>
    exact ⟨_, .ofWorkers rfl (effects_expireWaiting p _) (by simp) (count_expireWaiting p _)⟩
  | ticks => exact ⟨[], .ofWorkers rfl (by simp) (by simp) fun x => rfl⟩
  | @errs i w data hw =>
    exact ⟨_, .ofSame (v := { w with errWaiting := (Output.feed w.errWaiting data).2 }) hw rfl rfl
      rfl rfl rfl rfl rfl (not_mem_said _ _) (endings_said _ _)⟩
  | deafens hw =>
    exact ⟨[], .ofSame hw rfl rfl rfl rfl rfl rfl (by simp) (by simp) rfl⟩

/-- Every move accounts for its calls: none comes in and none is dropped. -/
theorem Move.accounts {p q : Pool} (hm : Move p q) : ∃ fs, Accounts p [] [] fs q := by
  cases hm with
  | stirs hs => exact hs.accounts
  | wakesAll =>
    refine ⟨[], .ofWorkers rfl (by simp [roused]) (by simp) fun x => ?_⟩
    rw [roused, count_calls, count_calls, List.flatMap_append, calls_looks]
    simp [endings]
    omega
  | dies hw ha =>
    exact ⟨_, .ofSame hw rfl rfl rfl rfl rfl rfl rfl (not_mem_said _ _) (endings_said _ _)⟩
  | reports =>
    exact ⟨_, .ofWorkers rfl (effects_note _ _) (by simp) fun x => rfl⟩
  | marks hw ha =>
    exact ⟨[], .ofSame hw rfl rfl rfl rfl rfl rfl (by simp) (by simp) rfl⟩

/-! ### Calls that come in or are dropped -/

/-- A call that comes in is accounted for. -/
theorem Enters.accounts {p q : Pool} {c : Call} (he : Enters p c q) :
    ∃ fs, Accounts p [c] [] fs q := by
  cases he with
  | looks =>
    refine ⟨[], .ofWorkers rfl (by simp) (by simp) fun x => ?_⟩
    rw [count_calls, count_calls, List.flatMap_append, List.count_append]
    simp [endings, Turn.calls]
    omega
  | @granted i w hw hf =>
    have hfree := (isFree_iff.1 hf).2
    have hno : w.call? = none := by simp [Worker.call?, Worker.running?, hfree]
    refine ⟨[], .ofSet (v := { w with hold := .granted c }) hw rfl ?_ (by simp) (by simp)
      fun x => ?_⟩
    · rw [hno]; rfl
    · have hset := count_callsOn_set hw { w with hold := .granted c } x
      rw [Worker.calls, Worker.calls, hfree] at hset
      simp only [Hold.calls, List.count_append, List.count_nil] at hset
      rw [count_calls, count_calls, workers_setWorker, waiting_setWorker, List.flatMap_append,
        List.count_append]
      simp [endings, Turn.calls]
      omega
  | @queued i w hw ht hf =>
    refine ⟨[], .ofSet (v := { w with queue := w.queue ++ [c] }) hw rfl rfl (by simp) (by simp)
      fun x => ?_⟩
    have hset := count_calls_set hw (workers_setWorker p i { w with queue := w.queue ++ [c] })
      rfl rfl x
    rw [Worker.calls, Worker.calls] at hset
    simp only [List.count_append] at hset
    simp only [endings, List.filterMap_nil, List.count_nil]
    omega
  | @rejected i w o hw ho =>
    refine ⟨[.ended c o], .ofWorkers rfl rfl (by simp) fun x => ?_⟩
    have hcalls : (p.note (.ended c o)).calls = p.calls := rfl
    rw [hcalls]
    rfl

/-- What is left of a line and what is taken out of it are the line. -/
theorem count_filter_name (cs : List Call) (name : String) (x : Call) :
    (cs.filter (·.name != name)).count x + (cs.filter (·.name == name)).count x = cs.count x := by
  have hperm := (List.filter_append_perm (fun c : Call => c.name == name) cs).count_eq x
  rw [List.count_append, Nat.add_comm] at hperm
  exact hperm

/-- Only calls of the name are dropped, and at least one. -/
theorem Drops.accounts {p q : Pool} {name : String} (hd : Drops p name q) :
    ∃ out fs, Accounts p [] out fs q ∧ (∀ c ∈ out, c.name = name) ∧ out ≠ [] := by
  cases hd with
  | running hw hinv hn =>
    exact ⟨[_], [], .ofPassedOn hw hinv rfl (workers_release hw) (waiting_release hw)
      (ready_release hw) (by rw [effects_release hw, List.append_nil]) (by simp) rfl,
      by simpa using hn, by simp⟩
  | @queued i w hw hq =>
    refine ⟨w.queue.filter (·.name == name), [], .ofSet
      (v := { w with queue := w.queue.filter (·.name != name) }) hw rfl rfl (by simp) (by simp)
      fun x => ?_, fun c hc => by simpa using (List.mem_filter.1 hc).2, ?_⟩
    · have hset := count_calls_set hw
        (workers_setWorker p i { w with queue := w.queue.filter (·.name != name) }) rfl rfl x
      have hfilter := count_filter_name w.queue name x
      rw [Worker.calls, Worker.calls] at hset
      simp only [List.count_append] at hset
      simp only [endings, List.filterMap_nil, List.count_nil]
      omega
    · obtain ⟨c, hc, hn⟩ := List.any_eq_true.1 hq
      exact List.ne_nil_of_mem (List.mem_filter.2 ⟨hc, hn⟩)
  | waiting hw =>
    refine ⟨(p.waiting.map (·.call)).filter (·.name == name), [],
      .ofWorkers rfl (by simp) (by simp) fun x => ?_,
      fun c hc => by simpa using (List.mem_filter.1 hc).2, ?_⟩
    · have hfilter := count_filter_name (p.waiting.map (·.call)) name x
      rw [List.filter_map] at hfilter
      rw [count_calls, count_calls]
      simp only [Function.comp_def, endings, List.filterMap_nil, List.count_nil] at *
      omega
    · obtain ⟨d, hd, hn⟩ := List.any_eq_true.1 hw
      exact List.ne_nil_of_mem (List.mem_filter.2 ⟨List.mem_map_of_mem hd, hn⟩)

theorem Prints.accounts {p q : Pool} {i : Nat} {data : List UInt8} (hp : Prints p i data q) :
    Accounts p [] [] [] q := by
  cases hp with
  | feeds hw ha => exact .ofSame hw rfl rfl rfl rfl rfl rfl (by simp) (by simp) rfl

/-! ### The ledger of a run -/

/-- The ledger of a run in which the calls `made` came in, the calls `gone` were dropped, and `es`
was seen before the present action. -/
structure Ledger (made gone : List Call) (es : List Effect) (p : Pool) : Prop where
  /-- Each call is held, ended, or dropped as often as it was made. -/
  balance : ∀ x, p.calls.count x + (endings (es ++ p.effects)).count x + gone.count x = made.count x
  /-- What got a worker is in progress there, ended, or was dropped. -/
  obtained : ∀ i c, .obtained i c ∈ es ++ p.effects →
    p.callOn i = some c ∨ c ∈ endings (es ++ p.effects) ∨ c ∈ gone
  /-- What is in progress on a worker got that worker. -/
  running : ∀ i c, p.callOn i = some c → .obtained i c ∈ es ++ p.effects

section

variable {made gone new out : List Call} {es fs : List Effect} {p q : Pool}

/-- What is accounted for keeps the ledger right. -/
theorem Ledger.enter (h : Ledger made gone es p) (ha : Accounts p new out fs q) :
    Ledger (made ++ new) (gone ++ out) es q := by
  have heff : es ++ q.effects = es ++ p.effects ++ fs := by rw [ha.effects, List.append_assoc]
  refine ⟨fun x => ?_, fun i c hc => ?_, fun i c hc => ?_⟩
  · have h₁ := h.balance x
    have h₂ := ha.balance x
    rw [heff, endings_append, List.count_append, List.count_append, List.count_append]
    omega
  · rw [heff, endings_append, List.mem_append, List.mem_append]
    rw [heff, List.mem_append] at hc
    rcases hc with hc | hc
    · rcases h.obtained i c hc with hr | he | hg
      · rcases ha.keeps i c hr with hr | he | ho
        · exact .inl hr
        · exact .inr (.inl (.inr he))
        · exact .inr (.inr (.inr ho))
      · exact .inr (.inl (.inl he))
      · exact .inr (.inr (.inl hg))
    · rcases ha.begins i c hc with hr | he
      · exact .inl hr
      · exact .inr (.inl (.inr he))
  · rw [heff, List.mem_append]
    exact (ha.began i c hc).imp_left (h.running i c)

theorem Ledger.move (h : Ledger made gone es p) (hm : Move p q) : Ledger made gone es q := by
  obtain ⟨fs, ha⟩ := hm.accounts
  simpa using h.enter ha

theorem Ledger.moves (h : Ledger made gone es p) (hm : Moves p q) : Ledger made gone es q := by
  induction hm with
  | refl => exact h
  | tail _ hm ih => exact ih.move hm

/-- What was seen in an action belongs to the run when the next one begins. -/
theorem Ledger.unseen (h : Ledger made gone es p) :
    Ledger made gone (es ++ p.effects) p.unseen := by
  have heff : es ++ p.effects ++ p.unseen.effects = es ++ p.effects := List.append_nil _
  exact ⟨by rw [heff]; exact h.balance, by rw [heff]; exact h.obtained,
    by rw [heff]; exact h.running⟩

/-- What the ledger says between two actions. -/
theorem Ledger.read (h : Ledger made gone es p.unseen) :
    (∀ x, p.calls.count x + (endings es).count x + gone.count x = made.count x) ∧
      (∀ i c, .obtained i c ∈ es → p.callOn i = some c ∨ c ∈ endings es ∨ c ∈ gone) ∧
      ∀ i c, p.callOn i = some c → .obtained i c ∈ es := by
  have heff : es ++ p.unseen.effects = es := List.append_nil _
  obtain ⟨hbalance, hobtained, hrunning⟩ := h
  rw [heff] at hbalance hobtained hrunning
  exact ⟨hbalance, hobtained, hrunning⟩

/-- What an action does by itself is entered in the ledger. -/
theorem Ledger.does {a : Action} (h : Ledger made gone es p.unseen) (hd : Does p a q) :
    ∃ out, Ledger (made ++ madeBy p a) (gone ++ out) es q ∧
      (∀ c ∈ out, c.name ∈ droppedBy p a) ∧ ∀ n ∈ droppedBy p a, ∃ c ∈ out, c.name = n := by
  cases hd with
  | enters hmade hdrop _ he =>
    obtain ⟨fs, ha⟩ := he.accounts
    rw [hmade, hdrop]
    exact ⟨[], h.enter ha, by simp, by simp⟩
  | drops hmade hdrop _ hd =>
    obtain ⟨out, fs, ha, hname, hne⟩ := hd.accounts
    rw [hmade, hdrop]
    refine ⟨out, h.enter ha, by simpa using hname, fun n hn => ?_⟩
    obtain ⟨c, hc⟩ := List.exists_mem_of_ne_nil _ hne
    exact ⟨c, hc, (hname c hc).trans (List.mem_singleton.1 hn).symm⟩
  | prints hmade hdrop _ _ _ hp =>
    rw [hmade, hdrop]
    exact ⟨[], h.enter hp.accounts, by simp, by simp⟩
  | other hmade hdrop _ =>
    rw [hmade, hdrop]
    refine ⟨[], ?_, by simp, by simp⟩
    rwa [List.append_nil, List.append_nil]

end

theorem ledger_launched (s : PoolSettings) (n : Nat) : Ledger [] [] [] (launched s n).unseen := by
  have hnone : ∀ i, (launched s n).unseen.callOn i = none := by
    intro i
    unfold callOn
    cases hw : (launched s n).workers[i]? with
    | none => exact congrArg (Option.bind · Worker.call?) hw
    | some w =>
      refine (congrArg (Option.bind · Worker.call?) hw).trans ?_
      rw [launched_worker (List.mem_of_getElem? hw)]
      rfl
  have hcalls : (launched s n).unseen.calls = [] := by
    simp [calls, callsOn, unseen, launched, Worker.calls, Hold.calls]
  refine ⟨fun x => ?_, fun i c hc => by simp [unseen] at hc, fun i c hc => ?_⟩
  · rw [hcalls]
    rfl
  · rw [hnone] at hc
    cases hc

/-- After every run each call that was made is held, ended or was dropped, as often as it was made;
only calls of the dropped names were dropped, and one of each such name. -/
theorem ledger_after (s : PoolSettings) (n : Nat) (as : List Action) :
    ∃ gone, Ledger (made (launched s n) as) gone (history (launched s n) as)
        ((launched s n).after as).unseen ∧
      (∀ c ∈ gone, c.name ∈ dropped (launched s n) as) ∧
      ∀ x ∈ dropped (launched s n) as, ∃ c ∈ gone, c.name = x := by
  refine (after_induction (p := launched s n) (motive := fun as p => p.ready = [] ∧
    ∃ gone, Ledger (made (launched s n) as) gone (history (launched s n) as) p.unseen ∧
      (∀ c ∈ gone, c.name ∈ dropped (launched s n) as) ∧
      ∀ x ∈ dropped (launched s n) as, ∃ c ∈ gone, c.name = x)
    ⟨rfl, [], ledger_launched s n, by simp, by simp [dropped]⟩ ?_ as).2
  intro as a ⟨hr, gone, h, hgone, hdropped⟩
  obtain ⟨⟨q, hd, hm, -⟩, hr'⟩ := step_cases _ a hr
  obtain ⟨out, hq, hout, hnames⟩ := h.does hd
  refine ⟨hr', gone ++ out, ?_, fun c hc => ?_, fun x hx => ?_⟩
  · rw [made_concat, history_concat]
    exact (hq.moves hm).unseen
  · rw [dropped, along_concat, List.mem_append]
    exact (List.mem_append.1 hc).imp (hgone c) (hout c)
  · rw [dropped, along_concat, List.mem_append] at hx
    rcases hx with hx | hx
    · obtain ⟨c, hc, hn⟩ := hdropped x hx
      exact ⟨c, List.mem_append_left _ hc, hn⟩
    · obtain ⟨c, hc, hn⟩ := hnames x hx
      exact ⟨c, List.mem_append_right _ hc, hn⟩

end Pool

end FunctionHost
