import FunctionHost.Proofs.Pool.Scene
import FunctionHost.Proofs.Pool.Traceless
/-!
# Which worker a call gets

A call on the pool passes the workers in their order (`scan`): over those that are terminated, and
over those that are alive and in use or refuse it, which it counts. It takes the first that is left.
If there is none and the count is not zero, it would wait; a wake-up that was kept sends it past the
workers once more (`search`). Every round comes to the same, so the call looks as if it passed once
(`look_eq_search`).

Main statement: `picks_first_idle`. In a settled pool a call gets the first worker that is neither
terminated nor in use, and nothing else changes; without such a worker it is turned away or waits,
and no worker changes.
-/

namespace FunctionHost

/-- Neither terminated nor in use. -/
def Worker.Idle (w : Worker) : Prop := w.terminated = false ∧ w.isBusy = false

instance : DecidablePred Worker.Idle := fun w =>
  inferInstanceAs (Decidable (w.terminated = false ∧ w.isBusy = false))

namespace Pool

/-! ### Passing the workers -/

/-- What a call comes to that passes the workers. -/
inductive Passed where
  /-- It takes the worker with this index. -/
  | takes (i : Nat)
  /-- It takes none, and so many are alive. -/
  | counts (alive : Nat)
deriving DecidableEq, Repr

/-- A call passes the workers, from index `i` on and after so many that are alive. -/
def scan (i alive : Nat) : List Worker → Passed
  | [] => .counts alive
  | w :: ws =>
    if w.terminated then scan (i + 1) alive ws
    else if w.isBusy then scan (i + 1) (alive + 1) ws
    else if w.isFree then .takes i
    else scan (i + 1) (alive + 1) ws

/-- A call passes the workers, round by round: instead of waiting it is woken at once by a wake-up
that was kept. -/
def search (p : Pool) (d : Waiter) : Pool :=
  match scan 0 0 p.workers with
  | .takes i => p.start i d.call
  | .counts 0 => p.note (.ended d.call unavailable)
  | .counts (_ + 1) =>
    if _h : p.permit then ({ p with permit := false } : Pool).search d
    else if d.deadline ≤ p.clock then p.note (.ended d.call unavailable)
    else { p with waiting := p.waiting ++ [d] }
termination_by p.permit.toNat
decreasing_by simp [_h]

/-- A worker that is free is neither terminated nor in use. -/
theorem idle_of_isFree {w : Worker} (h : w.isFree = true) : w.Idle := by
  obtain ⟨hlive, hhold⟩ := isFree_iff.1 h
  exact ⟨hlive, by rw [Worker.isBusy, hhold]⟩

/-- The first free worker is taken, and otherwise all that are alive are counted. -/
theorem scan_eq (ws : List Worker) (i alive : Nat) : scan i alive ws =
    match ws.findIdx? Worker.isFree with
    | some k => .takes (i + k)
    | none => .counts (alive + ws.countP (!·.terminated)) := by
  induction ws generalizing i alive with
  | nil => rfl
  | cons w ws ih =>
    rw [scan, List.findIdx?_cons, List.countP_cons]
    cases hfree : w.isFree with
    | true =>
      obtain ⟨hlive, hidle⟩ := idle_of_isFree hfree
      simp [hlive, hidle]
    | false =>
      cases hlive : w.terminated with
      | true =>
        simp only [if_true, ih, Bool.not_true, Bool.false_eq_true, if_false, Nat.add_zero]
        cases ws.findIdx? Worker.isFree with
        | none => rfl
        | some k => exact congrArg Passed.takes (Nat.succ_add_eq_add_succ i k)
      | false =>
        simp only [Bool.false_eq_true, if_false, ite_self, ih, Bool.not_false, if_true]
        cases ws.findIdx? Worker.isFree with
        | none => exact congrArg Passed.counts (by omega)
        | some k => exact congrArg Passed.takes (Nat.succ_add_eq_add_succ i k)

theorem countP_alive_eq_zero_iff {ws : List Worker} :
    ws.countP (!·.terminated) = 0 ↔ ws.all (·.terminated) = true := by
  simp

/-- A call that passes the workers round by round looks for a free one round by round. -/
theorem rounds_eq_search (p : Pool) (d : Waiter) : p.rounds d = p.search d := by
  have hscan : ∀ {q : Pool}, q.freeWorker? = none →
      scan 0 0 q.workers = .counts (q.workers.countP (!·.terminated)) := by
    intro q hf
    rw [scan_eq, ← freeWorker?, hf, Nat.zero_add]
  induction p using rounds.induct d with
  | case1 p i hi =>
    rw [rounds, search, scan_eq, ← freeWorker?]
    simp only [hi, Nat.zero_add]
  | case2 p hf hdead =>
    rw [rounds, search, hscan hf, countP_alive_eq_zero_iff.2 hdead]
    simp only [hf, hdead, if_true]
  | case3 p hf hlive hp ih =>
    obtain ⟨n, hn⟩ := Nat.exists_eq_succ_of_ne_zero (mt countP_alive_eq_zero_iff.1 hlive)
    rw [rounds, search, hscan hf, hn]
    simp only [hf, hlive, hp, dite_true]
    exact ih
  | case4 p hf hlive hp hlate =>
    obtain ⟨n, hn⟩ := Nat.exists_eq_succ_of_ne_zero (mt countP_alive_eq_zero_iff.1 hlive)
    rw [rounds, search, hscan hf, hn]
    simp only [hf, hlive, hp, hlate, Bool.false_eq_true, if_false, if_true, dite_false]
  | case5 p hf hlive hp hearly =>
    obtain ⟨n, hn⟩ := Nat.exists_eq_succ_of_ne_zero (mt countP_alive_eq_zero_iff.1 hlive)
    rw [rounds, search, hscan hf, hn]
    simp only [hf, hlive, hp, hearly, Bool.false_eq_true, if_false, dite_false]

/-- Looking once is enough: every round comes to the same. -/
theorem look_eq_search (p : Pool) (d : Waiter) : p.look d = p.search d :=
  (look_eq_rounds p d).trans (rounds_eq_search p d)

/-! ### Free and idle -/

section

variable {p q : Pool} {i : Nat} {w v : Worker} {c : Call}

/-- In a settled pool an idle worker is free: nobody was granted it. -/
theorem isFree_of_idle (ht : p.HasTurns) (hr : p.ready = []) (hw : w ∈ p.workers) (h : w.Idle) :
    w.isFree = true := by
  refine isFree_iff.2 ⟨h.1, by_contra fun hhold => ?_⟩
  obtain ⟨inv, hinv⟩ := running_of_not_free ht hr hw hhold
  have hbusy := h.2
  rw [Worker.isBusy, hinv] at hbusy
  cases hbusy

/-- In a settled pool the first idle worker is the first free one. -/
theorem freeWorker?_eq_of_idle (ht : p.HasTurns) (hr : p.ready = []) (hw : p.workers[i]? = some w)
    (hidle : w.Idle) (hfirst : ∀ j < i, ∀ v, p.workers[j]? = some v → ¬ v.Idle) :
    p.freeWorker? = some i := by
  obtain ⟨hi, rfl⟩ := List.getElem?_eq_some_iff.1 hw
  refine List.findIdx?_eq_some_iff_getElem.2
    ⟨hi, isFree_of_idle ht hr (List.getElem_mem hi) hidle, fun j hj hfree => ?_⟩
  exact hfirst j hj _ (List.getElem?_eq_getElem (Nat.lt_trans hj hi)) (idle_of_isFree hfree)

/-- Without an idle worker none is free. -/
theorem freeWorker?_eq_none_of_idle (h : ∀ w ∈ p.workers, ¬ w.Idle) : p.freeWorker? = none :=
  freeWorker?_eq_none_iff.2 fun w hw => Bool.eq_false_iff.2 fun hfree =>
    h w hw (idle_of_isFree hfree)

/-! ### Without an idle worker -/

/-- If every worker is terminated a call is turned away. -/
theorem look_of_dead (hdead : p.Dead) (d : Waiter) :
    p.look d = p.note (.ended d.call unavailable) := by
  have hnone : p.freeWorker? = none := freeWorker?_eq_none_of_idle fun w hw hidle =>
    Bool.noConfusion ((hdead w hw).symm.trans hidle.1)
  have hall : p.workers.all (·.terminated) = true := List.all_eq_true.2 hdead
  simp only [look, hnone, hall, if_true]
  rfl

/-- If no worker is idle but some is alive, a call waits behind the others, or is turned away when
its time is up. A wake-up that was kept is used up. -/
theorem look_of_busy (hbusy : ∀ w ∈ p.workers, ¬ w.Idle) (hlive : ¬ p.Dead) (d : Waiter) :
    p.look d = if d.deadline ≤ p.clock then
        ({ p with permit := false } : Pool).note (.ended d.call unavailable)
      else { p with permit := false, waiting := p.waiting ++ [d] } := by
  have hnone : p.freeWorker? = none := freeWorker?_eq_none_of_idle hbusy
  have hall : ¬ p.workers.all (·.terminated) = true := fun h => hlive (List.all_eq_true.1 h)
  simp only [look, hnone, hall, Bool.false_eq_true, if_false]
  rfl

/-! ### A call that begins -/

theorem note_setWorker_notes (p : Pool) (es : List Effect) (i : Nat) (v : Worker) (e : Effect) :
    ((p.notes es).setWorker i v).note e = (p.notes (es ++ [e])).setWorker i v := by
  simp [note, notes, setWorker]

/-- Nobody waits, worker `i`, which is `w`, is the only one to change, and nothing is written. -/
def WritesNothing (p : Pool) (i : Nat) (w : Worker) (q : Pool) : Prop :=
  ∃ v fs, q.workers = p.workers.set i v ∧ q.waiting = [] ∧ v.written = w.written ∧
    q.effects = p.effects ++ fs ∧ ∀ j t, .wrote j t ∉ fs

theorem writesNothing_finish {es : List Effect} (hw : p.workers[i]? = some w)
    (hwait : p.waiting = []) (hv : v.written = w.written) (hes : ∀ j t, .wrote j t ∉ es) (c : Call)
    (o : Outcome) : WritesNothing p i w (((p.notes es).setWorker i v).finish i c o) := by
  refine ⟨v.passedOn, es ++ [.ended c o], workers_finish_setWorker (p := p.notes es) hw v _ _, ?_,
    v.written_passedOn.trans hv, ?_, by simpa using hes⟩
  · rw [waiting_finish (getElem?_setWorker (p := p.notes es) hw v), waiting_setWorker,
      waiting_notes, hwait, List.tail_nil]
  · rw [effects_finish_setWorker (p := p.notes es) hw, effects_notes, List.append_assoc]

/-- An invocation that reads writes nothing. -/
theorem writesNothing_proceed {inv : Invocation} (hw : p.workers[i]? = some w)
    (hinv : w.hold = .running inv) (hwait : p.waiting = []) :
    WritesNothing p i w (p.proceed i) := by
  rcases proceed_cases hw hinv with heq | ⟨-, heq⟩ | heq | heq
  · rw [heq, note_setWorker_notes]
    exact writesNothing_finish hw hwait (by rfl) (by simp) _ _
  · rw [heq]
    exact writesNothing_finish hw hwait (by rfl) (by simp) _ _
  · rw [heq]
    exact writesNothing_finish hw hwait (by rfl) (by simp) _ _
  · rw [heq]
    exact ⟨_, _, rfl, hwait, rfl, rfl, by simp⟩

/-- What a call comes to that gets worker `i` of a pool in which nobody waits. -/
structure Begins (p : Pool) (i : Nat) (w : Worker) (c : Call) (q : Pool) : Prop where
  /-- No other worker changes. -/
  others : ∃ v, q.workers = p.workers.set i v
  /-- Still nobody waits. -/
  waiting : q.waiting = []
  /-- An interpreter that reads is sent the statements of the call, and nothing is written else. -/
  sends : w.reading = true → ∃ fs, q.effects = .obtained i c :: .wrote i (textFor w c) :: fs ∧
    (∀ j t, .wrote j t ∉ fs) ∧
    ∀ v, q.workers[i]? = some v → v.written = w.written ++ textFor w c
  /-- With an interpreter that does not read the call fails at once, and only a wake-up is left. -/
  fails : w.reading = false → q = { p with
    permit := true
    effects := [.obtained i c, .ended c (.failed (.write i))] }

/-- A call that gets a free worker for which nobody waits begins there. -/
theorem begins_of_free (hr : p.ready = []) (he : p.effects = []) (hs : p.Sound)
    (hwait : p.waiting = []) (hw : p.workers[i]? = some w) (hfree : w.isFree = true) (c : Call) :
    Begins p i w c (p.start i c).settle := by
  have hhold : w.hold = .free := (isFree_iff.1 hfree).2
  have hqueue : w.queue = [] := (hs.at hw).queue hhold
  cases hread : w.reading with
  | false =>
    have hstart := start_of_deaf hw hhold hqueue hread hwait c
    rw [he, List.nil_append] at hstart
    rw [settle_of_nil (by rw [hstart]; exact hr), hstart]
    have hset : p.workers = p.workers.set i w := congrArg Pool.workers (setWorker_self hw).symm
    exact ⟨⟨w, hset⟩, hwait, fun h => Bool.noConfusion (hread.symm.trans h), fun _ => rfl⟩
  | true =>
    have hstart : p.start i c = (p.seize i w c).proceed i := by
      unfold start
      simp only [hw, hread, if_true]
    have hi := (List.getElem?_eq_some_iff.1 hw).1
    have hseized : (p.seize i w c).workers[i]? = some (w.seizedBy c p.clock) := by
      rw [workers_seize, List.getElem?_set_self hi]
    obtain ⟨hready, -⟩ := proceed_of_alone hseized rfl hqueue hwait
    obtain ⟨v, fs, hws, hwaits, hwritten, heffects, hno⟩ :=
      writesNothing_proceed hseized rfl hwait
    rw [workers_seize, List.set_set] at hws
    rw [effects_seize, he] at heffects
    rw [hstart, settle_of_nil (hready.trans hr)]
    refine ⟨⟨v, hws⟩, hwaits, fun _ => ⟨fs, heffects, hno, fun u hu => ?_⟩,
      fun h => Bool.noConfusion (hread.symm.trans h)⟩
    rw [hws, List.getElem?_set_self hi] at hu
    rw [← Option.some.inj hu, hwritten]
    rfl

end

/-! ### Calls on the pool -/

/-- In a settled pool a call on the pool gets the first worker that is neither terminated nor in
use. It begins there, or fails if that interpreter does not read, and no other worker changes or is
written to. If every worker is terminated, or there is none, the call is answered 503 at once and
nothing else changes. If no worker is idle but some is alive, the call waits behind those that wait,
or is answered 503 at once if it may not wait, and no worker changes; a wake-up that was kept is
used up. This is what comes of passing the workers round by round. -/
theorem picks_first_idle (s : PoolSettings) (n : Nat) (as : List Action) (c : Call) :
    let p := (launched s n).after as
    let q := (p.step (.dispatch c)).2
    q = (p.unseen.search ⟨c, p.clock + s.dispatchTimeout⟩).settle ∧
    (∀ i w, p.workers[i]? = some w → w.Idle →
      (∀ j < i, ∀ v, p.workers[j]? = some v → ¬ v.Idle) → Begins p i w c q) ∧
    (p.Dead → q = { p with effects := [.ended c unavailable] }) ∧
    ((∀ w ∈ p.workers, ¬ w.Idle) → ¬ p.Dead → q =
      if s.dispatchTimeout = 0 then { p with permit := false, effects := [.ended c unavailable] }
      else { p with
        permit := false
        effects := []
        waiting := p.waiting ++ [⟨c, p.clock + s.dispatchTimeout⟩] }) := by
  intro p q
  have hr : p.ready = [] := ready_after (p := launched s n) rfl as
  have ht : p.HasTurns := hasTurns_after s n as
  have hq : q = (p.unseen.look ⟨c, p.clock + s.dispatchTimeout⟩).settle := by
    rw [← settings_after s n as]
    exact dispatch_eq_look (p := p.unseen) hr c
  refine ⟨hq.trans (congrArg settle (look_eq_search _ _)), fun i w hw hidle hfirst => ?_,
    fun hdead => ?_, fun hbusy hlive => ?_⟩
  · have hfree : w.isFree = true := isFree_of_idle ht hr (List.mem_of_getElem? hw) hidle
    have hwait : p.waiting = [] :=
      waiting_eq_nil_of_isFree (heard_after s n as) hr (List.mem_of_getElem? hw) hfree
    have hlook : p.unseen.look ⟨c, p.clock + s.dispatchTimeout⟩ = p.unseen.start i c := by
      have hpicks : p.unseen.freeWorker? = some i := freeWorker?_eq_of_idle ht hr hw hidle hfirst
      simp only [look, hpicks]
    have hbegins : Begins p.unseen i w c q := by
      rw [hq, hlook]
      exact begins_of_free (p := p.unseen) hr rfl (sound_after s n as) hwait hw hfree c
    exact ⟨hbegins.others, hbegins.waiting, hbegins.sends, hbegins.fails⟩
  · rw [hq, look_of_dead (p := p.unseen) hdead, settle_of_nil (by exact hr)]
    rfl
  · rw [hq, look_of_busy (p := p.unseen) hbusy hlive]
    by_cases hzero : s.dispatchTimeout = 0
    · have hlate : p.clock + s.dispatchTimeout ≤ p.unseen.clock := by
        rw [hzero]
        exact Nat.le_refl _
      rw [if_pos hlate, if_pos hzero, settle_of_nil (by exact hr)]
      rfl
    · have hearly : ¬ p.clock + s.dispatchTimeout ≤ p.unseen.clock := by
        change ¬ p.clock + s.dispatchTimeout ≤ p.clock
        omega
      rw [if_neg hearly, if_neg hzero, settle_of_nil (by exact hr)]
      rfl

/-- Behind a worker that is terminated and one that is in use, a call gets the third of four; it is
turned away if the only worker is terminated, and it waits if the only worker is in use, though a
wake-up was kept. -/
theorem picks_first_idle_of_mixed :
    let c := Call.plain "c"
    let mixed := (launched .plain 4).after [.terminate 0, .dispatch (.plain "a"),
      .handle 3 (.plain "b"), .cancel "b"]
    let dead := (launched .plain 1).after [.terminate 0]
    let busy := (launched .plain 1).after [.handle 0 (.plain "a"), .cancel "a",
      .handle 0 (.plain "b")]
    (mixed.permit = true ∧ Begins mixed 2 {} c (mixed.step (.dispatch c)).2) ∧
    (dead.Dead ∧ (dead.step (.dispatch c)).2 = { dead with effects := [.ended c unavailable] }) ∧
    ((∀ w ∈ busy.workers, ¬ w.Idle) ∧ ¬ busy.Dead ∧ busy.permit = true ∧
      (busy.step (.dispatch c)).2 = { busy with
        permit := false, effects := [], waiting := busy.waiting ++ [⟨c, busy.clock + 1000⟩] }) := by
  intro c mixed dead busy
  have hfirst : ∀ j < 2, ∀ v ∈ mixed.workers[j]?, ¬ v.Idle := by decide +kernel
  have hdead : dead.Dead := by decide +kernel
  have hbusy : ∀ w ∈ busy.workers, ¬ w.Idle := by decide +kernel
  have hlive : ¬ busy.Dead := by decide +kernel
  refine ⟨⟨by decide +kernel, ?_⟩, ⟨hdead, ?_⟩, hbusy, hlive, by decide +kernel, ?_⟩
  · exact (picks_first_idle .plain 4 _ c).2.1 2 {} (by decide +kernel) (by decide) hfirst
  · exact (picks_first_idle .plain 1 _ c).2.2.1 hdead
  · exact (picks_first_idle .plain 1 _ c).2.2.2 hbusy hlive

end Pool

end FunctionHost
