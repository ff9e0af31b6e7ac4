import FunctionHost.Proofs.Pool.Death
import FunctionHost.Proofs.Pool.Ledger
import FunctionHost.Proofs.Pool.Wakeups
/-!
# Calls that wait when the last worker dies

The end of a call on a worker wakes one waiting call, and a woken call that finds every worker
terminated is turned away. So the last worker to die turns away as many waiting calls as there are
calls on the workers, and the others wait on with nobody left to wake them (`last_death`); only
`teardown` wakes them all.

Main statement: `nobody_stranded_iff`, in a run all calls that wait when the last worker dies are
turned away at once exactly if never more calls wait than are on the workers, unless the last worker
dies in a `teardown`.
-/

namespace FunctionHost.Pool

/-- A call that waited still waits, was woken, or was turned away. -/
def Fate (d : Waiter) (p : Pool) : Prop :=
  d ∈ p.waiting ∨ .look d ∈ p.ready ∨ .ended d.call unavailable ∈ p.effects

/-- No worker is free, and only worker `i` has turns, which is dead. -/
structure Calm (i : Nat) (p : Pool) : Prop where
  /-- No worker is free. -/
  taken : ∀ w ∈ p.workers, w.isFree = false
  /-- The worker is dead. -/
  dead : ∀ w, p.workers[i]? = some w → w.terminated = true ∧ w.reading = false
  /-- Other workers have no turns. -/
  starts : ∀ j, .start j ∈ p.ready → j = i

/-- How many calls are on the workers. -/
def load (p : Pool) : Nat := (callsOn p.workers).length

section

variable {p q : Pool} {i : Nat} {w v : Worker} {t : Turn} {ts : List Turn}

/-! ### A dead worker's calls take nobody's place -/

theorem eq_of_start_mem_grantTurns {j : Nat} (h : .start j ∈ w.grantTurns i) : j = i := by
  unfold Worker.grantTurns at h
  split at h
  · cases h
  · cases List.mem_singleton.1 h
    rfl

theorem start_not_mem_wokenTurns (ds : List Waiter) (j : Nat) : .start j ∉ wokenTurns ds := by
  cases ds <;> simp [wokenTurns]

theorem isFree_of_terminated (h : w.terminated = true) : w.isFree = false := by
  simp [Worker.isFree, h]

/-- A worker that passes on stays as dead as it was. -/
theorem dead_finish (hw : p.workers[i]? = some w) (hdead : w.terminated = true ∧ w.reading = false)
    (c : Call) (o : Outcome) (h : (p.finish i c o).workers[i]? = some v) :
    v.terminated = true ∧ v.reading = false := by
  rw [workers_finish hw, List.getElem?_set_self (List.getElem?_eq_some_iff.1 hw).1] at h
  rw [← Option.some.inj h, w.terminated_passedOn, w.reading_passedOn]
  exact hdead

/-- The end of a call on a worker gives no other worker a turn. -/
theorem start_of_finish (hw : p.workers[i]? = some w) {c : Call} {o : Outcome} {j : Nat}
    (h : .start j ∈ (p.finish i c o).ready) : .start j ∈ p.ready ∨ j = i := by
  rw [ready_finish hw, List.mem_append, List.mem_append] at h
  rcases h with (h | h) | h
  · exact .inl h
  · exact .inr (eq_of_start_mem_grantTurns h)
  · exact absurd h (start_not_mem_wokenTurns _ j)

theorem Calm.finish (h : Calm i p) (hw : p.workers[i]? = some w) (c : Call) (o : Outcome) :
    Calm i (p.finish i c o) := by
  have hdead := h.dead w hw
  refine ⟨?_, fun v hv => dead_finish hw hdead c o hv, fun j hj => ?_⟩
  · rw [workers_finish hw]
    exact forall_mem_set h.taken (isFree_of_terminated (by rw [w.terminated_passedOn, hdead.1])) i
  · exact (start_of_finish hw hj).elim (h.starts j) id

theorem Fate.finish {d : Waiter} (h : Fate d p) (hw : p.workers[i]? = some w) (c : Call)
    (o : Outcome) : Fate d (p.finish i c o) := by
  unfold Fate
  rw [waiting_finish hw, ready_finish hw, effects_finish hw]
  rcases h with h | h | h
  · cases hwait : p.waiting with
    | nil =>
      rw [hwait] at h
      cases h
    | cons e es =>
      rw [hwait] at h
      rcases List.mem_cons.1 h with rfl | h
      · exact .inr (.inl (List.mem_append_right _ (List.mem_singleton_self _)))
      · exact .inl h
  · exact .inr (.inl (List.mem_append_left _ (List.mem_append_left _ h)))
  · exact .inr (.inr (List.mem_append_left _ h))

/-- A call that begins on the dead worker fails. -/
theorem Calm.start (h : Calm i p) (c : Call) :
    Calm i (p.start i c) ∧ ∀ d, Fate d p → Fate d (p.start i c) := by
  unfold Pool.start
  split
  next => exact ⟨h, fun _ hd => hd⟩
  next w hw =>
    rw [if_neg (by simp [(h.dead w hw).2])]
    have hnote : Calm i (p.note (.obtained i c)) := ⟨h.taken, h.dead, h.starts⟩
    refine ⟨hnote.finish hw _ _, fun d hd => ?_⟩
    have hd : Fate d (p.note (.obtained i c)) :=
      hd.imp_right fun hd => hd.imp_right fun hd => List.mem_append_left _ hd
    exact hd.finish hw _ _

/-- A woken call finds no worker, and waits again or is turned away. -/
theorem Calm.look (h : Calm i p) (e : Waiter) :
    Calm i (p.look e) ∧ (∀ d, Fate d p → Fate d (p.look e)) ∧ Fate e (p.look e) := by
  unfold Pool.look
  rw [freeWorker?_eq_none_iff.2 h.taken]
  dsimp only
  split
  next =>
    refine ⟨⟨h.taken, h.dead, h.starts⟩, fun d hd => ?_, ?_⟩
    · exact hd.imp_right fun hd => hd.imp_right fun hd => List.mem_append_left _ hd
    · exact .inr (.inr (List.mem_append_right _ (List.mem_singleton_self _)))
  next =>
    split
    next =>
      refine ⟨⟨h.taken, h.dead, h.starts⟩, fun d hd => ?_, ?_⟩
      · exact hd.imp_right fun hd => hd.imp_right fun hd => List.mem_append_left _ hd
      · exact .inr (.inr (List.mem_append_right _ (List.mem_singleton_self _)))
    next =>
      refine ⟨⟨h.taken, h.dead, h.starts⟩, fun d hd => ?_, ?_⟩
      · exact hd.imp_left fun hd => List.mem_append_left _ hd
      · exact .inl (List.mem_append_right _ (List.mem_singleton_self _))

theorem Calm.turn (h : Calm i p) (hr : p.ready = t :: ts) :
    Calm i (({ p with ready := ts } : Pool).turn t) ∧
      ∀ d, Fate d p → Fate d (({ p with ready := ts } : Pool).turn t) := by
  have hrest : Calm i { p with ready := ts } :=
    ⟨h.taken, h.dead, fun j hj => h.starts j (by rw [hr]; exact List.mem_cons_of_mem _ hj)⟩
  cases t with
  | start j =>
    obtain rfl : j = i := h.starts j (by rw [hr]; exact List.mem_cons_self)
    have hfate : ∀ d, Fate d p → Fate d { p with ready := ts } := by
      intro d hd
      unfold Fate at *
      rw [hr, List.mem_cons] at hd
      exact hd.imp_right fun hd => hd.imp_left fun hd => hd.resolve_left (by simp)
    simp only [Pool.turn]
    split
    · obtain ⟨hcalm, hstart⟩ := hrest.start ‹Call›
      exact ⟨hcalm, fun d hd => hstart d (hfate d hd)⟩
    · exact ⟨hrest, hfate⟩
  | look e =>
    obtain ⟨hcalm, hothers, he⟩ := hrest.look e
    refine ⟨hcalm, fun d hd => ?_⟩
    by_cases hde : d = e
    · subst hde
      exact he
    · refine hothers d ?_
      unfold Fate at *
      rw [hr, List.mem_cons] at hd
      exact hd.imp_right fun hd => hd.imp_left fun hd => hd.resolve_left (by simpa using hde)

theorem Calm.settle (h : Calm i p) : Calm i p.settle ∧ ∀ d, Fate d p → Fate d p.settle := by
  induction p using settle.induct with
  | case1 p hr =>
    rw [settle_of_nil hr]
    exact ⟨h, fun _ hd => hd⟩
  | case2 p t ts hr ih =>
    rw [settle_of_cons hr]
    obtain ⟨hturn, hfate⟩ := h.turn hr
    obtain ⟨hsettle, hrest⟩ := ih hturn
    exact ⟨hsettle, fun d hd => hrest d (hfate d hd)⟩

/-- What follows a death leaves every waiting call waiting or turns it away. -/
theorem Calm.proceed (h : Calm i p) (hw : p.workers[i]? = some w) (ha : w.alive = false) :
    Calm i (p.proceed i) ∧ ∀ d, Fate d p → Fate d (p.proceed i) := by
  by_cases hold : ∃ inv, w.hold = .running inv
  · obtain ⟨inv, hinv⟩ := hold
    obtain ⟨u, es, o, -, -, hreading, hterm, hp⟩ := proceed_of_dead hw ha hinv
    obtain ⟨ht, hr⟩ := h.dead w hw
    have hget : ((p.setWorker i u).notes es).workers[i]? = some u := getElem?_setWorker hw u
    have hcalm : Calm i ((p.setWorker i u).notes es) := by
      refine ⟨forall_mem_set h.taken (isFree_of_terminated (hterm ht)) i, fun x hx => ?_, h.starts⟩
      rw [← Option.some.inj (hget.symm.trans hx), hreading]
      exact ⟨hterm ht, hr⟩
    rw [hp]
    refine ⟨hcalm.finish hget _ _, fun d hd => Fate.finish ?_ hget _ _⟩
    exact hd.imp_right fun hd => hd.imp_right fun hd => List.mem_append_left _ hd
  · rw [proceed_of_not_running hw fun inv hinv => hold ⟨inv, hinv⟩]
    exact ⟨h, fun _ hd => hd⟩

/-! ### How many calls the end of a pool wakes -/

theorem load_eq_of_set (hw : p.workers[i]? = some w) (hws : q.workers = p.workers.set i v)
    (hv : v.calls = w.calls) : q.load = p.load := by
  have := length_callsOn_set hw v
  unfold load
  rw [hws]
  rw [hv] at this
  omega

/-- The end of a call on a worker leaves one call less on the workers. -/
theorem load_finish (hw : p.workers[i]? = some w) (c : Call) (o : Outcome) :
    (p.finish i c o).load + w.hold.calls.length = p.load := by
  have := length_callsOn_set hw w.passedOn
  rw [w.calls_passedOn, Worker.calls, List.length_append] at this
  unfold load
  rw [workers_finish hw]
  omega

/-- Every turn on a dead pool that ends a call on a worker wakes the next waiting call. -/
theorem waiting_turn_of_dead (hd : p.Dead) (hs : p.Sound) (hr : p.ready = t :: ts) :
    (({ p with ready := ts } : Pool).turn t).waiting.drop
      (({ p with ready := ts } : Pool).turn t).load = p.waiting.drop p.load := by
  cases t with
  | start i =>
    simp only [turn]
    split
    next c hc =>
      obtain ⟨w, hw, hg⟩ := Option.map_eq_some_iff.1 hc
      have hw : p.workers[i]? = some w := hw
      have halive : w.alive = false := by
        have := (hs.at hw).terminated
        rw [hd w (List.mem_of_getElem? hw)] at this
        simpa using this.symm
      have hw' : (({ p with ready := ts } : Pool).note (.obtained i c)).workers[i]? = some w := hw
      have hload := load_finish hw' c (.failed (.write i))
      rw [hg, Hold.calls, List.length_singleton] at hload
      have hstart : ({ p with ready := ts } : Pool).start i c =
          (({ p with ready := ts } : Pool).note (.obtained i c)).finish i c
            (.failed (.write i)) := by
        unfold start
        simp only [hw, (hs.at hw).reading halive, Bool.false_eq_true, if_false]
      rw [hstart, waiting_finish hw', List.drop_tail, hload]
      rfl
    next => rfl
  | look e =>
    have hfree : ({ p with ready := ts } : Pool).freeWorker? = none :=
      freeWorker?_eq_none_iff.2 fun w hw => isFree_of_terminated (hd w hw)
    simp only [turn, look, hfree]
    rw [if_pos (by simpa [Dead] using hd)]
    rfl

/-- A settled dead pool has no calls on its workers. -/
theorem load_of_dead (h : p.Regular) (hd : p.Dead) (hr : p.ready = []) : p.load = 0 := by
  have hnone : ∀ w ∈ p.workers, w.calls = [] := by
    intro w hw
    obtain ⟨i, hi⟩ := List.mem_iff_getElem?.1 hw
    have hret := h.retired hr hi (hd w hw)
    rw [Worker.calls, hret.hold, hret.queue]
    rfl
  unfold load callsOn
  rw [List.length_eq_zero_iff, List.flatMap_eq_nil_iff]
  exact hnone

/-- When a dead pool settles, as many waiting calls are woken as calls are on its workers. -/
theorem waiting_settle_of_dead (h : p.Regular) (hd : p.Dead) :
    p.settle.waiting = p.waiting.drop p.load := by
  induction p using settle.induct with
  | case1 p hr => rw [settle_of_nil hr, load_of_dead h hd hr, List.drop_zero]
  | case2 p t ts hr ih =>
    have hturn := turn_stirs hr
    rw [settle_of_cons hr, ih (h.stirs hturn) (hd.stirs h.sound hturn),
      waiting_turn_of_dead hd h.sound hr]

end

/-! ### A death -/

/-- The process of worker `i` has died, which makes worker `w` into `v`, and nothing has followed
from it. -/
structure Died (p : Pool) (i : Nat) (w v : Worker) (q : Pool) : Prop where
  /-- The worker. -/
  worker : p.workers[i]? = some w
  /-- Its process was alive. -/
  alive : w.alive = true
  /-- No other worker changes. -/
  workers : q.workers = p.workers.set i v
  /-- The worker keeps its calls. -/
  calls : v.hold = w.hold ∧ v.queue = w.queue
  /-- Its process is dead. -/
  dead : v.alive = false ∧ v.reading = false ∧ v.terminated = true
  /-- The others wait. -/
  waiting : q.waiting = p.waiting
  /-- Nothing is set off. -/
  ready : q.ready = p.ready
  /-- What was seen is kept. -/
  effects : ∀ e ∈ p.effects, e ∈ q.effects

section

variable {p q : Pool} {i : Nat} {w v : Worker}

theorem died_die (hw : p.workers[i]? = some w) (ha : w.alive = true) :
    ∃ v, Died p i w v (p.die i w) :=
  ⟨_, hw, ha, rfl, ⟨rfl, rfl⟩, ⟨rfl, rfl, rfl⟩, rfl, rfl, fun _ he => List.mem_append_left _ he⟩

theorem Died.note (h : Died p i w v q) (e : Effect) : Died p i w v (q.note e) :=
  ⟨h.worker, h.alive, h.workers, h.calls, h.dead, h.waiting, h.ready,
    fun e he => List.mem_append_left _ (h.effects e he)⟩

theorem Died.getElem? (h : Died p i w v q) : q.workers[i]? = some v := by
  rw [h.workers, List.getElem?_set_self (List.getElem?_eq_some_iff.1 h.worker).1]

/-- If no worker was free, every call that waited waits or is turned away after the death. -/
theorem Died.fate (h : Died p i w v q) (htaken : ∀ w ∈ p.workers, w.isFree = false)
    (hr : p.ready = []) :
    (∀ w ∈ (q.proceed i).settle.workers, w.isFree = false) ∧
      ∀ d, Fate d p → Fate d (q.proceed i).settle := by
  obtain ⟨ha, hreading, hterm⟩ := h.dead
  have hcalm : Calm i q := by
    refine ⟨?_, fun x hx => ?_, fun j hj => ?_⟩
    · rw [h.workers]
      exact forall_mem_set htaken (isFree_of_terminated hterm) i
    · rw [← Option.some.inj (h.getElem?.symm.trans hx)]
      exact ⟨hterm, hreading⟩
    · rw [h.ready, hr] at hj
      cases hj
  obtain ⟨hproceed, hfate⟩ := hcalm.proceed h.getElem? ha
  obtain ⟨hsettle, hrest⟩ := hproceed.settle
  refine ⟨hsettle.taken, fun d hd => hrest d (hfate d ?_)⟩
  unfold Fate at *
  rw [h.waiting, h.ready]
  exact hd.imp_right fun hd => hd.imp_right (h.effects _)

theorem Died.sound (h : Died p i w v q) (hs : p.Sound) : q.Sound := by
  obtain ⟨hhold, hqueue⟩ := h.calls
  obtain ⟨ha, hreading, hterm⟩ := h.dead
  unfold Sound
  rw [h.workers]
  refine forall_mem_set hs ⟨fun hf => ?_, by rw [hterm, ha]; rfl, fun _ => hreading⟩ i
  rw [hqueue]
  exact (hs.at h.worker).queue (hhold.symm.trans hf)

/-- The invocation on the worker ends with it, and the pool is regular again. -/
theorem Died.regular (h : Died p i w v q) (hp : p.Regular) : (q.proceed i).Regular := by
  have hturns : q.HasTurns := by
    refine hp.turns.set h.workers (fun j _ hj => by rwa [h.ready]) fun c hg => ?_
    rw [h.ready]
    exact hp.turns i w c h.worker (h.calls.1.symm.trans hg)
  refine ⟨(h.sound hp.sound).stirs (proceed_stirs q i), hturns.stirs (proceed_stirs q i), ?_⟩
  refine Lively.proceed h.getElem? h.dead.1 fun j x inv hj hx hinv => ?_
  rw [h.workers, List.getElem?_set_ne (Ne.symm hj)] at hx
  exact hp.lively x (List.mem_of_getElem? hx) inv hinv

/-- After the death of the last worker those wait that were more than the calls on the workers. -/
theorem Died.waiting_settle (h : Died p i w v q) (hp : p.Regular) (hh : p.Heard) (hr : p.ready = [])
    (hd : q.Dead) : (q.proceed i).settle.waiting = p.waiting.drop p.load := by
  obtain ⟨hhold, hqueue⟩ := h.calls
  have hload : q.load = p.load :=
    load_eq_of_set h.worker h.workers (by rw [Worker.calls, Worker.calls, hhold, hqueue])
  rw [waiting_settle_of_dead (h.regular hp) (hd.stirs (h.sound hp.sound) (proceed_stirs q i))]
  by_cases hold : ∃ inv, v.hold = .running inv
  · obtain ⟨inv, hinv⟩ := hold
    obtain ⟨x, es, o, hxhold, hxqueue, -, -, hproceed⟩ := proceed_of_dead h.getElem? h.dead.1 hinv
    have hget : ((q.setWorker i x).notes es).workers[i]? = some x :=
      getElem?_setWorker h.getElem? x
    have hxload : ((q.setWorker i x).notes es).load = q.load :=
      load_eq_of_set h.getElem? rfl (by rw [Worker.calls, Worker.calls, hxhold, hxqueue, hinv])
    have hfinish := load_finish hget inv.call o
    rw [hxhold, Hold.calls, List.length_singleton, hxload, hload] at hfinish
    rw [hproceed, waiting_finish hget, List.drop_tail, hfinish]
    exact congrArg (List.drop p.load) h.waiting
  · -- nobody had the worker, so no call was waiting
    have hnone : p.waiting = [] := by
      by_contra hwait
      have hterm : w.terminated = false := by
        rw [(hp.sound.at h.worker).terminated, h.alive]
        rfl
      obtain ⟨inv, hinv⟩ :=
        hh.running hp.turns hr hwait (List.mem_of_getElem? h.worker) hterm
      exact hold ⟨inv, hhold.trans hinv⟩
    rw [proceed_of_not_running h.getElem? fun inv hinv => hold ⟨inv, hinv⟩, h.waiting, hnone,
      List.drop_nil, List.drop_nil]

/-! ### The death of the last worker -/

/-- A terminated worker among others turns no waiting call away but with the last one. -/
theorem fate_stop (htaken : ∀ w ∈ p.workers, w.isFree = false) (hr : p.ready = []) (i : Nat) :
    (∀ w ∈ (p.stop i).workers, w.isFree = false) ∧
      ∀ d, Fate d p → Fate d (p.stop i) := by
  unfold stop
  split
  next => exact ⟨htaken, fun _ hd => hd⟩
  next w hw =>
    split
    next ha =>
      obtain ⟨v, hv⟩ := died_die hw ha
      exact hv.fate htaken hr
    next => exact ⟨forall_mem_set htaken (isFree_of_terminated rfl) i, fun _ hd => hd⟩

theorem fate_foldl_stop (is : List Nat) (htaken : ∀ w ∈ p.workers, w.isFree = false)
    (hr : p.ready = []) :
    (∀ w ∈ (is.foldl stop p).workers, w.isFree = false) ∧
      (is.foldl stop p).ready = [] ∧ ∀ d, Fate d p → Fate d (is.foldl stop p) := by
  induction is generalizing p with
  | nil => exact ⟨htaken, hr, fun _ hd => hd⟩
  | cons i is ih =>
    obtain ⟨htaken', hfate⟩ := fate_stop htaken hr i
    obtain ⟨hw, hr', hrest⟩ := ih htaken' (ready_stop i hr)
    exact ⟨hw, hr', fun d hd => hrest d (hfate d hd)⟩

/-- A teardown turns every waiting call away. -/
theorem fate_stopAll (htaken : ∀ w ∈ p.workers, w.isFree = false) (hr : p.ready = [])
    {d : Waiter} (hd : Fate d p) : Fate d p.stopAll := by
  obtain ⟨hw, hr', hrest⟩ := fate_foldl_stop (List.range p.workers.length) htaken hr
  have hfold := hrest d hd
  set q := (List.range p.workers.length).foldl stop p
  -- no worker has a turn, so the dead worker may be one that does not exist
  have hcalm : Calm q.workers.length q.roused := by
    refine ⟨hw, fun v hv => ?_, fun j hj => ?_⟩
    · exact absurd hv (by simp [roused])
    · rw [roused, hr'] at hj
      simp at hj
  refine hcalm.settle.2 d ?_
  rcases hfold with hd | hd | hd
  · exact .inr (.inl (List.mem_append_right _ (List.mem_map_of_mem hd)))
  · exact .inr (.inl (List.mem_append_left _ hd))
  · exact .inr (.inr hd)

/-- An exit is a death, or changes nothing. -/
theorem exit_cases (p : Pool) (i : Nat) :
    (∃ w v q, Died p i w v q ∧ (p.exit i).2 = (q.proceed i).settle) ∨ (p.exit i).2 = p := by
  unfold Pool.exit
  split
  next => exact .inr rfl
  next w hw =>
    split
    next ha =>
      obtain ⟨v, hv⟩ := died_die hw ha
      dsimp only
      split
      next => exact .inl ⟨w, v, _, hv, rfl⟩
      next => exact .inl ⟨w, v, _, hv.note _, rfl⟩
    next => exact .inr rfl

/-- To terminate a worker again changes nothing. -/
theorem stop_of_dead (hw : p.workers[i]? = some w) (ha : w.alive = false)
    (ht : w.terminated = true) : p.stop i = p := by
  have hsame : ({ w with terminated := true } : Worker) = w := by rw [← ht]
  unfold stop
  rw [hw]
  dsimp only
  rw [if_neg (by simp [ha]), hsame, setWorker_self hw]

/-- A termination is a death, or changes nothing. -/
theorem stop_cases (hs : p.Sound) (i : Nat) :
    (∃ w v q, Died p i w v q ∧ p.stop i = (q.proceed i).settle) ∨ p.stop i = p := by
  cases hw : p.workers[i]? with
  | none => exact .inr (by rw [stop, hw])
  | some w =>
    cases ha : w.alive with
    | true =>
      obtain ⟨v, hv⟩ := died_die hw ha
      exact .inl ⟨w, v, _, hv, by rw [stop, hw]; exact if_pos ha⟩
    | false => exact .inr (stop_of_dead hw ha (by rw [(hs.at hw).terminated, ha]; rfl))

/-- In a settled pool no call is woken and has not looked. -/
theorem Fate.settled {d : Waiter} (hr : p.ready = []) (h : Fate d p) :
    d ∈ p.waiting ∨ .ended d.call unavailable ∈ p.effects := by
  rcases h with h | h | h
  · exact .inl h
  · rw [hr] at h
    cases h
  · exact .inr h

/-- The death of the last worker turns away as many of the waiting calls as calls are on the
workers. -/
theorem Died.last (h : Died p i w v q) (hp : p.Regular) (hh : p.Heard) (hr : p.ready = [])
    (hd : (q.proceed i).settle.Dead) :
    (∀ d ∈ p.waiting, d ∈ (q.proceed i).settle.waiting ∨
      .ended d.call unavailable ∈ (q.proceed i).settle.effects) ∧
    (q.proceed i).settle.waiting = p.waiting.drop p.load := by
  refine ⟨fun d hd => ?_, ?_⟩
  · have htaken := isFree_of_waiting hh hr (List.ne_nil_of_mem hd)
    exact Fate.settled (ready_settle _) ((h.fate htaken hr).2 d (.inl hd))
  · have hstirs := (proceed_stirs q i).trans (settle_stirs _)
    exact h.waiting_settle hp hh hr (dead_of_stirs (h.sound hp.sound) hstirs hd)

/-- The action by which the last worker dies turns away as many of the waiting calls as calls are on
the workers, and `teardown` turns all away. -/
theorem last_death (hp : p.Regular) (hh : p.Heard) (hr : p.ready = []) {a : Action}
    (hlive : ¬ p.Dead) (hdead : (p.step a).2.Dead) :
    (∀ d ∈ p.waiting, d ∈ (p.step a).2.waiting ∨
      .ended d.call unavailable ∈ (p.step a).2.effects) ∧
    (p.step a).2.waiting = if a = .teardown then [] else p.waiting.drop p.load := by
  have hpu := hp.unseen
  by_cases hk : a.kills = false
  · -- other actions end no process
    have hs : (p.step a).2.Sound := by
      obtain ⟨⟨q, hd, hm, -⟩, -⟩ := step_cases p a hr
      exact (hd.sound hp.sound).moves hm
    rw [dead_iff_lives hs, lives_step hr hk] at hdead
    exact absurd ((dead_iff_lives hp.sound).2 hdead) hlive
  · cases a with
    | exit i =>
      rw [if_neg Action.noConfusion]
      change (p.unseen.exit i).2.Dead at hdead
      change (∀ d ∈ p.waiting, d ∈ (p.unseen.exit i).2.waiting ∨
        .ended d.call unavailable ∈ (p.unseen.exit i).2.effects) ∧
        (p.unseen.exit i).2.waiting = p.unseen.waiting.drop p.unseen.load
      rcases exit_cases p.unseen i with ⟨w, v, q, hq, hstep⟩ | hstep
      · rw [hstep] at hdead ⊢
        exact hq.last hpu hh hr hdead
      · rw [hstep] at hdead
        exact absurd hdead hlive
    | terminate i =>
      rw [if_neg Action.noConfusion]
      rw [step_terminate] at hdead ⊢
      change (∀ d ∈ p.waiting, d ∈ (p.unseen.stop i).waiting ∨
        .ended d.call unavailable ∈ (p.unseen.stop i).effects) ∧
        (p.unseen.stop i).waiting = p.unseen.waiting.drop p.unseen.load
      rcases stop_cases hpu.sound i with ⟨w, v, q, hq, hstep⟩ | hstep
      · rw [hstep] at hdead ⊢
        exact hq.last hpu hh hr hdead
      · rw [hstep] at hdead
        exact absurd hdead hlive
    | teardown =>
      rw [if_pos rfl]
      rw [step_teardown] at hdead ⊢
      have hroused := (hpu.foldl_stop (List.range p.unseen.workers.length)).roused
      refine ⟨fun d hd => ?_, ?_⟩
      · have htaken := isFree_of_waiting hh hr (List.ne_nil_of_mem hd)
        exact (fate_stopAll (p := p.unseen) htaken hr (.inl hd)).settled (ready_settle _)
      · exact (waiting_settle_of_dead hroused
          (dead_of_stirs hroused.sound (settle_stirs _) hdead)).trans (List.drop_nil)
    | _ => exact absurd rfl hk

end

/-! ### Runs -/

/-- In a run all calls that wait when the last worker dies are turned away at once, and no call
waits for a pool whose workers are all terminated, exactly if at each last death that is not part of
a `teardown` no more calls wait than are on the workers. -/
theorem nobody_stranded_iff (s : PoolSettings) (n : Nat) (as : List Action) :
    ((∀ bs, bs <+: as → ((launched s n).after bs).Dead → ((launched s n).after bs).waiting = []) ∧
      ∀ bs a, bs ++ [a] <+: as → ¬ ((launched s n).after bs).Dead →
        ((launched s n).after (bs ++ [a])).Dead → ∀ d ∈ ((launched s n).after bs).waiting,
          .ended d.call unavailable ∈ ((launched s n).after (bs ++ [a])).effects) ↔
    ∀ bs a, bs ++ [a] <+: as → ¬ ((launched s n).after bs).Dead →
      ((launched s n).after (bs ++ [a])).Dead →
        a = .teardown ∨ ((launched s n).after bs).waiting.length ≤ ((launched s n).after bs).load := by
  have hlast : ∀ bs a, ¬ ((launched s n).after bs).Dead →
      ((launched s n).after (bs ++ [a])).Dead →
      (∀ d ∈ ((launched s n).after bs).waiting,
        d ∈ ((launched s n).after (bs ++ [a])).waiting ∨
          .ended d.call unavailable ∈ ((launched s n).after (bs ++ [a])).effects) ∧
      ((launched s n).after (bs ++ [a])).waiting =
        if a = .teardown then []
        else ((launched s n).after bs).waiting.drop ((launched s n).after bs).load := by
    intro bs a hlive hdead
    rw [after_concat] at hdead ⊢
    exact last_death (regular_after s n bs) (heard_after s n bs) (ready_after rfl bs) hlive hdead
  constructor
  · rintro ⟨hempty, -⟩ bs a hbs hlive hdead
    have hwait := (hlast bs a hlive hdead).2
    rw [hempty _ hbs hdead] at hwait
    by_cases ha : a = .teardown
    · exact .inl ha
    · rw [if_neg ha] at hwait
      exact .inr (List.drop_eq_nil_iff.1 hwait.symm)
  · intro hfew
    have hempty : ∀ bs, bs <+: as → ((launched s n).after bs).Dead →
        ((launched s n).after bs).waiting = [] := by
      intro bs hbs hdead
      induction bs using List.reverseRecOn with
      | nil => rfl
      | append_singleton bs a ih =>
        by_cases hlive : ((launched s n).after bs).Dead
        · have hdeserted : ((launched s n).after bs).Deserted :=
            ⟨hlive, ih ((List.prefix_append _ _).trans hbs) hlive⟩
          rw [after_concat]
          exact (hdeserted.step (ready_after rfl bs) a).waiting
        · rw [(hlast bs a hlive hdead).2]
          split
          · rfl
          · exact List.drop_eq_nil_iff.2 ((hfew bs a hbs hlive hdead).resolve_left ‹_›)
    refine ⟨hempty, fun bs a hbs hlive hdead d hd => ?_⟩
    rcases (hlast bs a hlive hdead).1 d hd with hw | he
    · rw [hempty _ hbs hdead] at hw
      cases hw
    · exact he

/-- The only worker dies with one call in progress while two calls wait: one of these waits on. -/
theorem stranded_by_exit :
    let p := (launched .plain 1).after
      [.dispatch (.plain "a"), .dispatch (.plain "b"), .dispatch (.plain "c"), .exit 0]
    p.Dead ∧ p.waiting.map (·.call.name) = ["c"] := by
  decide +kernel

end FunctionHost.Pool
