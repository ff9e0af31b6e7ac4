import FunctionHost.Proofs.Gateway.Deed
import FunctionHost.Proofs.Pool.Ledger
import FunctionHost.Proofs.Pool.Wakeups
/-!
# Calls get workers in the order in which they came

As long as calls are made on the pool only and no process ends, the waiting calls form one line. A
woken call could lose its place in it: one that finds no worker free waits again behind the others.
But every wake-up of a waiting call comes from a worker that has become free, and only woken calls
take workers while the pool settles; so every woken call finds a free worker (`Lined`), and the calls
that get workers are the first of the line.

Main statement: `first_waiting_first_served`, in such a run calls get workers in the order in which
they came, and in every millisecond those that get one are the first of the line. The run may also
serve requests.
-/

namespace FunctionHost

/-- The action makes no call on a worker, and ends no process. -/
def Action.isGentle : Action → Bool
  | .dispatch _ | .cancel _ | .stdout _ _ | .stderr _ _ | .closeStdin _ | .advance _ => true
  | _ => false

/-- A deed is gentle if it is a gentle action, or serves a request. -/
def Gateway.Deed.isGentle : Gateway.Deed → Bool
  | .acts a => a.isGentle
  | .serves _ _ _ _ => true

/-- A worker that lives, and that only calls on the pool have had. -/
structure Worker.Healthy (w : Worker) : Prop where
  /-- The process runs. -/
  alive : w.alive = true
  /-- The worker takes calls. -/
  terminated : w.terminated = false
  /-- Nobody waits for this worker. -/
  queue : w.queue = []
  /-- Nobody was granted the worker. -/
  granted : ∀ c, w.hold ≠ .granted c

theorem Worker.Healthy.passedOn {w : Worker} (h : w.Healthy) :
    w.passedOn = { w with hold := .free } := by
  unfold Worker.passedOn
  rw [h.queue]

namespace Pool

/-- The calls that get a worker, in order. -/
def obtainers (es : List Effect) : List Call :=
  es.filterMap fun
    | .obtained _ c => some c
    | _ => none

/-- The calls that wait for any worker, the longest waiting first. -/
def line (p : Pool) : List Call := p.waiting.map (·.call)

@[simp]
theorem line_unseen (p : Pool) : p.unseen.line = p.line := rfl

/-- While a pool settles, the calls of the line `cs` have workers, were woken or wait, in this order,
and there is a free worker for each woken call. -/
structure Lined (cs : List Call) (p : Pool) : Prop where
  /-- Every worker is healthy. -/
  healthy : ∀ w ∈ p.workers, w.Healthy
  /-- Only woken calls have a turn. -/
  woken : ∀ i, .start i ∉ p.ready
  /-- There is a free worker for each of them. -/
  backed : looks p.ready ≤ p.freeCount
  /-- The order of the line. -/
  order : obtainers p.effects ++ (p.ready.flatMap Turn.calls ++ p.line) = cs

section

variable {cs : List Call} {p q : Pool} {i : Nat} {v w : Worker} {fs : List Effect}

theorem obtainers_append (es fs : List Effect) :
    obtainers (es ++ fs) = obtainers es ++ obtainers fs := List.filterMap_append

theorem obtainers_eq_nil (h : ∀ i c, .obtained i c ∉ fs) : obtainers fs = [] :=
  List.filterMap_eq_nil_iff.2 fun e he => by
    cases e with
    | obtained i c => exact absurd he (h i c)
    | _ => rfl

/-! ### What keeps the line -/

/-- A worker changes and stays healthy, and no call gets a worker. -/
theorem Lined.set (h : Lined cs p) (hw : p.workers[i]? = some w)
    (hws : q.workers = p.workers.set i v) (hv : v.Healthy) (hfree : v.isFree = w.isFree)
    (hready : q.ready = p.ready) (hwait : q.waiting = p.waiting)
    (he : obtainers q.effects = obtainers p.effects) : Lined cs q := by
  have hcount := freeCount_set hw hws
  rw [hfree] at hcount
  refine ⟨?_, ?_, ?_, ?_⟩
  · rw [hws]
    exact forall_mem_set h.healthy hv i
  · rw [hready]
    exact h.woken
  · have := h.backed
    rw [hready]
    omega
  · rw [he, hready, line, hwait]
    exact h.order

/-- A worker changes in its pipes only. -/
theorem Lined.setSame (h : Lined cs p) (hw : p.workers[i]? = some w) (halive : v.alive = w.alive)
    (hterminated : v.terminated = w.terminated) (hqueue : v.queue = w.queue)
    (hhold : v.hold = w.hold) : Lined cs (p.setWorker i v) := by
  have hhealthy := h.healthy w (List.mem_of_getElem? hw)
  have hv : v.Healthy :=
    { alive := halive.trans hhealthy.alive
      terminated := hterminated.trans hhealthy.terminated
      queue := hqueue.trans hhealthy.queue
      granted := hhold ▸ hhealthy.granted }
  have hfree : v.isFree = w.isFree := by rw [Worker.isFree, Worker.isFree, hterminated, hhold]
  exact h.set hw rfl hv hfree rfl rfl rfl

/-- A worker becomes free, and the call that has waited longest is woken. -/
theorem Lined.passedOn (h : Lined cs p) (hw : p.workers[i]? = some w) (hbusy : w.isFree = false)
    (hws : q.workers = p.workers.set i w.passedOn) (hwait : q.waiting = p.waiting.tail)
    (hready : q.ready = p.ready ++ w.grantTurns i ++ wokenTurns p.waiting)
    (he : obtainers q.effects = obtainers p.effects) : Lined cs q := by
  have hhealthy := h.healthy w (List.mem_of_getElem? hw)
  have hpassed : w.passedOn.Healthy := by
    rw [hhealthy.passedOn]
    exact ⟨hhealthy.alive, hhealthy.terminated, hhealthy.queue, by simp⟩
  have hfree : w.passedOn.isFree = true := by
    rw [hhealthy.passedOn]
    exact isFree_iff.2 ⟨hhealthy.terminated, rfl⟩
  have hcount := freeCount_set hw hws
  rw [hbusy, hfree] at hcount
  have hturns : q.ready = p.ready ++ wokenTurns p.waiting := by
    rw [hready, Worker.grantTurns, hhealthy.queue, List.append_nil]
  have hlooks : looks (wokenTurns p.waiting) ≤ 1 := by
    cases p.waiting with
    | nil => exact Nat.zero_le 1
    | cons d ds => exact Nat.le_refl 1
  refine ⟨?_, fun j hj => ?_, ?_, ?_⟩
  · rw [hws]
    exact forall_mem_set h.healthy hpassed i
  · rw [hturns] at hj
    rcases List.mem_append.1 hj with hj | hj
    · exact h.woken j hj
    · simp [wokenTurns] at hj
  · have := h.backed
    rw [hturns, looks_append]
    exact Nat.le_trans (Nat.add_le_add this hlooks) (Nat.le_of_eq hcount.symm)
  · rw [he, hturns, line, hwait, List.flatMap_append, List.append_assoc, calls_wokenTurns]
    exact h.order

theorem Lined.notes (h : Lined cs p) {es : List Effect} (he : obtainers es = []) :
    Lined cs (p.notes es) := by
  refine ⟨h.healthy, h.woken, h.backed, ?_⟩
  rw [effects_notes, obtainers_append, he, List.append_nil]
  exact h.order

theorem Lined.finish (h : Lined cs p) (hw : p.workers[i]? = some w) (hbusy : w.isFree = false)
    (c : Call) (o : Outcome) : Lined cs (p.finish i c o) := by
  refine h.passedOn hw hbusy (workers_finish hw c o) (waiting_finish hw c o) (ready_finish hw c o) ?_
  rw [effects_finish hw, obtainers_append]
  exact List.append_nil _

theorem Lined.release (h : Lined cs p) (hw : p.workers[i]? = some w) (hbusy : w.isFree = false) :
    Lined cs (p.release i) :=
  h.passedOn hw hbusy (workers_release hw) (waiting_release hw) (ready_release hw)
    (by rw [effects_release hw])

/-- A woken call takes a free worker. -/
theorem Lined.takes {d : Waiter} {ts : List Turn} (h : Lined cs p) (hr : p.ready = .look d :: ts)
    (hw : p.workers[i]? = some w) (hfree : w.isFree = true) (hws : q.workers = p.workers.set i v)
    (hv : v.Healthy) (hbusy : v.isFree = false) (hready : q.ready = ts)
    (hwait : q.waiting = p.waiting)
    (he : obtainers q.effects = obtainers p.effects ++ [d.call]) : Lined cs q := by
  have hcount := freeCount_set hw hws
  rw [hfree, hbusy] at hcount
  refine ⟨?_, fun j hj => ?_, ?_, ?_⟩
  · rw [hws]
    exact forall_mem_set h.healthy hv i
  · rw [hready] at hj
    exact h.woken j (hr ▸ List.mem_cons_of_mem _ hj)
  · have hbacked := h.backed
    rw [hr, looks_cons_look] at hbacked
    rw [hready]
    exact Nat.le_of_succ_le_succ (Nat.le_trans hbacked (Nat.le_of_eq hcount.symm))
  · have horder := h.order
    rw [hr, List.flatMap_cons, Turn.calls, List.append_assoc] at horder
    rw [he, hready, line, hwait, List.append_assoc]
    exact horder

/-! ### Settling -/

theorem Lined.proceed (h : Lined cs p) (hw : p.workers[i]? = some w) :
    Lined cs (p.proceed i) := by
  by_cases hrunning : ∃ inv, w.hold = .running inv
  swap
  · rwa [proceed_of_not_running hw fun inv hinv => hrunning ⟨inv, hinv⟩]
  obtain ⟨inv, hinv⟩ := hrunning
  have hhealthy := h.healthy w (List.mem_of_getElem? hw)
  have hbusy : w.isFree = false := isFree_of_running hinv
  set r := inv.decoder.run w.unread
  set q := p.notes (r.complaints.map .complained)
  have hq : Lined cs q := h.notes (obtainers_eq_nil (by simp))
  have hread : Lined cs (q.setWorker i { w with unread := r.rest }) :=
    hq.setSame (p := q) hw rfl rfl rfl rfl
  rcases proceed_cases hw hinv with heq | ⟨hdead, -⟩ | heq | heq
  · rw [heq]
    have hcompleted : Lined cs ((q.setWorker i { w with unread := r.rest }).note
        (.completed i inv.call r.decoder.reply)) := hread.notes rfl
    exact hcompleted.finish (getElem?_setWorker (p := q) hw _) hbusy _ _
  · rw [hhealthy.alive] at hdead
    cases hdead
  · rw [heq]
    exact hread.finish (getElem?_setWorker (p := q) hw _) hbusy _ _
  · rw [heq]
    refine hq.set (p := q) hw rfl ?_ ((isFree_of_running rfl).trans hbusy.symm) rfl rfl rfl
    exact ⟨hhealthy.alive, hhealthy.terminated, hhealthy.queue, by simp⟩

/-- A woken call has a worker, and ends at once or is in progress. -/
theorem Lined.start {d : Waiter} {ts : List Turn} (h : Lined cs p) (hr : p.ready = .look d :: ts)
    (hf : p.freeWorker? = some i) : Lined cs (({ p with ready := ts } : Pool).start i d.call) := by
  obtain ⟨w, hw, hfree⟩ := isFree_of_freeWorker? hf
  have hhealthy := h.healthy w (List.mem_of_getElem? hw)
  set q : Pool := { p with ready := ts }
  have hqw : q.workers[i]? = some w := hw
  unfold Pool.start
  simp only [hqw]
  split
  · refine Lined.proceed ?_ (getElem?_setWorker hqw (w.seizedBy d.call q.clock))
    refine h.takes hr hw hfree (workers_seize q i w d.call)
      ⟨hhealthy.alive, hhealthy.terminated, hhealthy.queue, by simp [Worker.seizedBy]⟩
      (isFree_of_running rfl) rfl rfl ?_
    rw [effects_seize, obtainers_append]
    rfl
  · -- the worker could as well have the call: its release does not look at that
    set v : Worker := { w with hold := .running (opening d.call q.clock) }
    have hq : q.note (.obtained i d.call) = (q.note (.obtained i d.call)).setWorker i w :=
      (setWorker_self (p := q.note _) hw).symm
    have htaken : Lined cs ((q.note (.obtained i d.call)).setWorker i v) := by
      refine h.takes hr hw hfree rfl
        ⟨hhealthy.alive, hhealthy.terminated, hhealthy.queue, by simp [v]⟩
        (isFree_of_running rfl) rfl rfl ?_
      rw [effects_setWorker, effects_note, obtainers_append]
      rfl
    rw [hq, ← finish_setWorker_hold (p := q.note _) hw w (.running (opening d.call q.clock))]
    exact htaken.finish (getElem?_setWorker (p := q.note _) hw _) (isFree_of_running rfl) _ _

/-- Every turn keeps the line. -/
theorem Lined.turn {t : Turn} {ts : List Turn} (h : Lined cs p) (hr : p.ready = t :: ts) :
    Lined cs (({ p with ready := ts } : Pool).turn t) := by
  cases t with
  | start j => exact absurd (hr ▸ List.mem_cons_self) (h.woken j)
  | look d =>
    have hbacked := h.backed
    rw [hr, looks_cons_look] at hbacked
    have hf : ∃ i, p.freeWorker? = some i := by
      cases hf : p.freeWorker? with
      | some i => exact ⟨i, rfl⟩
      | none =>
        have hzero := freeCount_eq_zero_iff.2 (freeWorker?_eq_none_iff.1 hf)
        omega
    obtain ⟨i, hf⟩ := hf
    have hlook : ({ p with ready := ts } : Pool).look d =
        ({ p with ready := ts } : Pool).start i d.call := by
      have hf' : ({ p with ready := ts } : Pool).freeWorker? = some i := hf
      simp only [Pool.look, hf']
    rw [Pool.turn, hlook]
    exact h.start hr hf

theorem Lined.settle (h : Lined cs p) : Lined cs p.settle := by
  induction p using Pool.settle.induct with
  | case1 p hr => rwa [settle_of_nil hr]
  | case2 p t ts hr ih =>
    rw [settle_of_cons hr]
    exact ih (h.turn hr)

/-! ### One action -/

/-- Of the line `cs` the first calls have got a worker, and the others wait, but for some that wait
no more. -/
def ServedFrom (cs : List Call) (q : Pool) : Prop :=
  ∃ k, obtainers q.effects = cs.take k ∧ q.line.Sublist (cs.drop k)

/-- What a gentle action leaves of a healthy pool: it is healthy, and the line has been served from
its beginning. -/
structure Leaves (cs : List Call) (q : Pool) : Prop where
  /-- Every worker is healthy. -/
  healthy : ∀ w ∈ q.workers, w.Healthy
  /-- The first calls of the line have got a worker. -/
  served : ServedFrom cs q

theorem Lined.leaves (h : Lined cs q) (hr : q.ready = []) : Leaves cs q := by
  have horder := h.order
  rw [hr, List.flatMap_nil, List.nil_append] at horder
  refine ⟨h.healthy, (obtainers q.effects).length, ?_, ?_⟩
  · rw [← horder, List.take_left]
  · have hrest : q.line = cs.drop (obtainers q.effects).length := by rw [← horder, List.drop_left]
    exact hrest ▸ List.Sublist.refl _

theorem Lined.leaves_settle (h : Lined cs q) : Leaves cs q.settle :=
  h.settle.leaves (ready_settle q)

/-- Some calls wait no more. -/
theorem Leaves.withdraw (h : Leaves cs p) (hws : q.workers = p.workers)
    (he : obtainers q.effects = obtainers p.effects) (hline : q.line.Sublist p.line) :
    Leaves cs q := by
  obtain ⟨hhealthy, k, htake, hdrop⟩ := h
  exact ⟨hws ▸ hhealthy, k, he.trans htake, hline.trans hdrop⟩

section

variable (hp : ∀ w ∈ p.workers, w.Healthy) (hr : p.ready = []) (he : p.effects = [])
include hp hr he

/-- In a settled pool the line consists of the waiting calls. -/
theorem lined_of_settled : Lined p.line p := by
  refine ⟨hp, fun i hi => ?_, ?_, ?_⟩
  · rw [hr] at hi
    cases hi
  · rw [hr]
    exact Nat.zero_le _
  · rw [hr, he]
    rfl

/-- A new call takes a free worker if nobody waits, or goes to the back of the line. -/
theorem leaves_dispatch (hh : p.Heard) (c : Call) : Leaves (p.line ++ [c]) (p.dispatch c) := by
  set d : Waiter := ⟨c, p.clock + p.settings.dispatchTimeout⟩
  cases hf : p.freeWorker? with
  | some i =>
    obtain ⟨w, hw, hfree⟩ := isFree_of_freeWorker? hf
    have hmem := List.mem_of_getElem? hw
    have hwait := waiting_eq_nil_of_isFree hh hr hmem hfree
    refine Lined.leaves_settle ⟨hp, fun j hj => ?_, ?_, ?_⟩
    · simp [hr] at hj
    · rw [hr]
      exact List.countP_pos_iff.2 ⟨w, hmem, hfree⟩
    · simp [hr, he, line, hwait, Turn.calls, obtainers]
  | none =>
    have hkept : Leaves (p.line ++ [c]) p :=
      ⟨hp, 0, by rw [he]; rfl, List.sublist_append_left _ _⟩
    rw [dispatch_eq_look hr]
    simp only [look, hf]
    split
    · rw [settle_of_nil (p := p.note _) hr]
      exact hkept.withdraw rfl (by rw [effects_note, obtainers_append]; exact List.append_nil _)
        (List.Sublist.refl _)
    · split
      · rw [settle_of_nil (p := note { p with permit := false } _) hr]
        exact hkept.withdraw rfl (by rw [effects_note, obtainers_append]; exact List.append_nil _)
          (List.Sublist.refl _)
      · rw [settle_of_nil (p := { p with permit := false, waiting := p.waiting ++ [d] }) hr]
        refine ⟨hp, 0, ?_, ?_⟩
        · rw [he]
          rfl
        · rw [line, List.map_append]
          exact List.Sublist.refl _

theorem leaves_cancel (name : String) : Leaves p.line (p.cancel name).2 := by
  have hlined := lined_of_settled hp hr he
  have hqueues : p.workers.findIdx? (queues name) = none :=
    List.findIdx?_eq_none_iff.2 fun w hw => by rw [queues, (hp w hw).queue]; rfl
  unfold cancel
  split
  next i hi =>
    obtain ⟨hlt, hruns, -⟩ := List.findIdx?_eq_some_iff_getElem.1 hi
    obtain ⟨inv, hinv, -⟩ := runs_eq_true_iff.1 hruns
    exact (hlined.release (List.getElem?_eq_getElem hlt) (isFree_of_running hinv)).leaves_settle
  next =>
    rw [hqueues]
    dsimp only
    split
    · exact (hlined.leaves hr).withdraw rfl rfl (List.filter_sublist.map _)
    · exact hlined.leaves hr

theorem leaves_stdout (i : Nat) (data : List UInt8) : Leaves p.line (p.stdout i data).2 := by
  have hlined := lined_of_settled hp hr he
  unfold stdout
  split
  next => exact hlined.leaves hr
  next w hw =>
    split
    · refine (Lined.proceed ?_ (getElem?_setWorker hw _)).leaves_settle
      exact hlined.setSame hw rfl rfl rfl rfl
    · exact hlined.leaves hr

theorem leaves_stderr (i : Nat) (data : List UInt8) : Leaves p.line (p.stderr i data).2 := by
  have hlined := lined_of_settled hp hr he
  unfold stderr
  split
  next => exact hlined.leaves hr
  next w hw =>
    split
    · refine Lined.leaves (Lined.notes ?_ (obtainers_eq_nil (not_mem_said i _))) hr
      exact hlined.setSame hw rfl rfl rfl rfl
    · exact hlined.leaves hr

theorem leaves_closeStdin (i : Nat) : Leaves p.line (p.closeStdin i) := by
  have hlined := lined_of_settled hp hr he
  unfold closeStdin
  cases hw : p.workers[i]? with
  | none =>
    rw [List.modify_eq_self (List.getElem?_eq_none_iff.1 hw)]
    exact hlined.leaves hr
  | some w =>
    rw [modify_eq_set_of_getElem? hw]
    refine Lined.leaves ?_ hr
    exact hlined.setSame hw rfl rfl rfl rfl

end

theorem Lined.expireWorker (h : Lined cs p) (i : Nat) : Lined cs (p.expireWorker i) := by
  unfold Pool.expireWorker
  split
  next inv hinv =>
    obtain ⟨w, hw, hrunning⟩ := Option.bind_eq_some_iff.1 hinv
    split
    · exact h.finish hw (isFree_of_running (running?_eq_some_iff.1 hrunning)) _ _
    · exact h
  next => exact h

/-- When time is up, invocations end and woken calls get their workers before any wait ends. -/
theorem Lined.leaves_expire (h : Lined cs p) : Leaves cs p.expire := by
  have hfold : Lined cs ((List.range p.workers.length).foldl Pool.expireWorker p) :=
    List.foldlRecOn _ Pool.expireWorker h fun _ hq i _ => hq.expireWorker i
  have hnone : ∀ ds : List Waiter,
      obtainers (ds.map fun d => .ended d.call unavailable) = [] := fun ds =>
    obtainers_eq_nil (by simp)
  unfold Pool.expire Pool.expireWorkers
  refine hfold.leaves_settle.withdraw rfl ?_ ?_
  · rw [effects_expireWaiting, obtainers_append, hnone, List.append_nil]
  · refine List.Sublist.map _ ?_
    rw [waiting_expireWaiting]
    exact List.filter_sublist

/-- A gentle action serves the line from its beginning. A new call is its last. -/
theorem leaves_step (hp : ∀ w ∈ p.workers, w.Healthy) (hh : p.Heard) (hr : p.ready = [])
    {a : Action} (ha : a.isGentle = true) (hbrief : ∀ n, a = .advance n → n = 1) :
    Leaves (p.line ++ madeBy p a) (p.step a).2 := by
  have hp : ∀ w ∈ p.unseen.workers, w.Healthy := hp
  have key : ∀ {q : Pool}, madeBy p a = [] → Leaves p.line q →
      Leaves (p.line ++ madeBy p a) q := fun hmade hq => by
    rw [hmade, List.append_nil]
    exact hq
  cases a with
  | dispatch c => exact leaves_dispatch hp hr rfl hh c
  | cancel name => exact key rfl (leaves_cancel hp hr rfl name)
  | stdout i data => exact key rfl (leaves_stdout hp hr rfl i data)
  | stderr i data => exact key rfl (leaves_stderr hp hr rfl i data)
  | closeStdin i => exact key rfl (leaves_closeStdin hp hr rfl i)
  | advance n =>
    obtain rfl := hbrief n rfl
    have hlined := lined_of_settled hp hr rfl
    have htick : Lined p.line { p.unseen with clock := p.unseen.clock + 1 } :=
      ⟨hlined.healthy, hlined.woken, hlined.backed, hlined.order⟩
    refine key rfl ?_
    show Leaves p.line (p.unseen.advance 1)
    by_cases hq : 1 ≤ p.unseen.quiet 1
    · rw [advance_of_le_quiet hq]
      exact htick.leaves hr
    · have hzero : p.unseen.quiet 1 = 0 := by omega
      rw [advance_of_quiet_lt (Nat.not_le.1 hq), hzero, advance_of_le_quiet (Nat.zero_le _)]
      exact htick.leaves_expire
  | _ => cases ha

end

/-! ### Runs -/

theorem isGentle_moments {as : List Action} (h : ∀ a ∈ as, a.isGentle = true) :
    ∀ a ∈ moments as, a.isGentle = true ∧ ∀ n, a = .advance n → n = 1 := by
  intro a ha
  obtain ⟨b, hb, hab⟩ := List.mem_flatMap.1 ha
  cases b with
  | advance n =>
    obtain rfl := List.eq_of_mem_replicate hab
    exact ⟨rfl, by simp⟩
  | _ =>
    obtain rfl := List.mem_singleton.1 hab
    exact ⟨h _ hb, by simp⟩

/-- The workers of a newly launched pool stay healthy in gentle runs, and calls have got workers, or
wait, in the order in which they came. -/
theorem lined_after (s : PoolSettings) (n : Nat) {as : List Action}
    (h : ∀ a ∈ as, a.isGentle = true ∧ ∀ n, a = .advance n → n = 1) :
    (∀ w ∈ ((launched s n).after as).workers, w.Healthy) ∧
      (obtainers (history (launched s n) as) ++ ((launched s n).after as).line).Sublist
        (made (launched s n) as) := by
  induction as using List.reverseRecOn with
  | nil =>
    refine ⟨fun w hw => ?_, List.Sublist.refl _⟩
    rw [launched_worker hw]
    exact ⟨rfl, rfl, rfl, fun c hc => by cases hc⟩
  | append_singleton as a ih =>
    obtain ⟨hhealthy, hsublist⟩ := ih fun b hb => h b (List.mem_append_left _ hb)
    obtain ⟨ha, hbrief⟩ := h a (List.mem_append_right _ (List.mem_singleton_self a))
    obtain ⟨hhealthy, k, htake, hdrop⟩ :=
      leaves_step hhealthy (heard_after s n as) (ready_after rfl as) ha hbrief
    rw [after_concat, history_concat, made_concat, obtainers_append]
    refine ⟨hhealthy, ?_⟩
    set p := (launched s n).after as
    calc obtainers (history (launched s n) as) ++ obtainers (p.step a).2.effects ++ (p.step a).2.line
        = obtainers (history (launched s n) as) ++
            ((p.line ++ madeBy p a).take k ++ (p.step a).2.line) := by rw [htake, List.append_assoc]
      List.Sublist _ (obtainers (history (launched s n) as) ++
            ((p.line ++ madeBy p a).take k ++ (p.line ++ madeBy p a).drop k)) :=
          (List.Sublist.refl _).append ((List.Sublist.refl _).append hdrop)
      _ = obtainers (history (launched s n) as) ++ p.line ++ madeBy p a := by
          rw [List.take_append_drop, List.append_assoc]
      List.Sublist _ (made (launched s n) as ++ madeBy p a) :=
          hsublist.append (List.Sublist.refl _)

theorem isGentle_actions {g : Gateway} {ds : List Gateway.Deed}
    (h : ∀ d ∈ ds, d.isGentle = true) : ∀ a ∈ g.actions ds, a.isGentle = true := by
  induction ds generalizing g with
  | nil => nofun
  | cons d ds ih =>
    rw [List.forall_mem_cons] at h
    intro a ha
    rcases List.mem_append.1 ha with ha | ha
    · cases d with
      | acts b =>
        obtain rfl := List.mem_singleton.1 ha
        exact h.1
      | serves name r slot remote =>
        by_cases haccepts : g.accepts r.uri.requestText = true
        · rw [Gateway.actionsOf_of_accepts haccepts] at ha
          obtain rfl := List.mem_singleton.1 ha
          rfl
        · rw [Gateway.actionsOf_of_rejects haccepts] at ha
          cases ha
    · exact ih h.2 a ha

/-- If calls are made on the pool only, also by serving requests, and no process ends, calls get
workers in the order in which they came: the calls that have had a worker, followed by those that
wait, are calls of the run in their order. And no call overtakes another in any millisecond: of those
that wait and the one that is made, the first get a worker, and those that wait afterwards are others
in their order. -/
theorem first_waiting_first_served (s : PoolSettings) (n : Nat) (g : Gateway)
    (hg : g.pool = launched s n) (ds : List Gateway.Deed) (h : ∀ d ∈ ds, d.isGentle = true) :
    let as := g.actions ds
    (obtainers (g.seen ds) ++ (g.after ds).pool.line).Sublist (made (launched s n) as) ∧
    ∀ bs a cs, moments as = bs ++ a :: cs →
      let p := (launched s n).after bs
      let ahead := p.line ++ madeBy p a
      ∃ k, obtainers (p.step a).2.effects = ahead.take k ∧
        (p.step a).2.line.Sublist (ahead.drop k) := by
  intro as
  have hmoments : ∀ a ∈ moments as, a.isGentle = true ∧ ∀ n, a = .advance n → n = 1 :=
    isGentle_moments (isGentle_actions h)
  refine ⟨?_, fun bs a cs hsplit => ?_⟩
  · have hseen : g.seen ds = history (launched s n) as := hg ▸ g.seen_eq_history ds
    have hpool : (g.after ds).pool.unseen = ((launched s n).after as).unseen :=
      hg ▸ g.pool_after ds
    have hline : (g.after ds).pool.line = ((launched s n).after (moments as)).line := by
      rw [← line_unseen, hpool, ← after_moments (launched s n) as]
      rfl
    have hsublist := (lined_after s n hmoments).2
    rw [history_moments, made_moments] at hsublist
    rw [hseen, hline]
    exact hsublist
  · rw [hsplit] at hmoments
    obtain ⟨ha, hbrief⟩ := hmoments a (List.mem_append_right _ List.mem_cons_self)
    have hhealthy := (lined_after s n fun b hb => hmoments b (List.mem_append_left _ hb)).1
    exact (leaves_step hhealthy (heard_after s n bs) (ready_after rfl bs) ha hbrief).served

/-- The interpreter reads no more while the first of three calls is in progress. When the time of
that call is up the second gets the worker and cannot be written, and then the third. -/
theorem first_waiting_first_served_of_three :
    let a := Call.plain "a"
    let b := Call.plain "b"
    let c := Call.plain "c"
    let ds := [Gateway.Deed.acts (.dispatch a), .acts (.dispatch b), .acts (.dispatch c),
      .acts (.closeStdin 0), .acts (.advance 100)]
    let as := Gateway.single.actions ds
    (∀ d ∈ ds, d.isGentle = true) ∧
    obtainers (Gateway.single.seen ds) = [a, b, c] ∧
    (obtainers (Gateway.single.seen ds) ++ (Gateway.single.after ds).pool.line).Sublist
      (made (launched .plain 1) as) ∧
    ∀ bs x cs, moments as = bs ++ x :: cs →
      let p := (launched .plain 1).after bs
      let ahead := p.line ++ madeBy p x
      ∃ k, obtainers (p.step x).2.effects = ahead.take k ∧
        (p.step x).2.line.Sublist (ahead.drop k) := by
  intro a b c ds as
  have hgentle : ∀ d ∈ ds, d.isGentle = true := by decide +kernel
  exact ⟨hgentle, by decide +kernel,
    first_waiting_first_served .plain 1 Gateway.single rfl ds hgentle⟩

end Pool

end FunctionHost
