import FunctionHost.Proofs.Pool.Killing
import FunctionHost.Proofs.Pool.Once
import FunctionHost.Proofs.Pool.Pace
/-!
# Workers apart

An action on one worker can set off a cascade: the call that has the worker ends, the next one in
its queue begins, a waiting call is woken, looks through all workers, and waits again. The cascade
stays on that worker (`Confined`), because as long as somebody looks for a worker no other worker is
free. Each turn keeps this (`Confined.turn`), and what an operation on one worker leaves alone is
said once for each operation (`Spares`).

Main statement: `others_undisturbed`, an action on a worker changes no other worker, and ends only
calls on that worker and calls that waited for any.
-/

namespace FunctionHost

/-- The worker from which a call of a name is dropped, if a worker has one: one on which it is in
progress comes before one whose queue it is in. -/
def Pool.holder? (p : Pool) (name : String) : Option Nat :=
  (p.workers.findIdx? (Pool.runs name)).or (p.workers.findIdx? (Pool.queues name))

/-- The worker on which an action is done, if it is done on one. -/
def Action.worker? (p : Pool) : Action → Option Nat
  | .stdout i _ => some i
  | .stderr i _ => some i
  | .closeStdin i => some i
  | .exit i => some i
  | .terminate i => some i
  | .cancel name => p.holder? name
  | _ => none

namespace Pool

/-- Worker `j` is left alone: it stays as it is, and nothing is seen of a call on it. -/
structure Spares (j : Nat) (p q : Pool) : Prop where
  /-- The worker stays as it is. -/
  worker : q.workers[j]? = p.workers[j]?
  /-- What is seen is not about a call on it. -/
  seen : ∃ fs, q.effects = p.effects ++ fs ∧ ∀ e ∈ fs, e.worker? ≠ some j

/-- A call is on worker `i` or in the line of those that wait for any worker. -/
def Near (i : Nat) (p : Pool) (c : Call) : Prop :=
  (∃ w, p.workers[i]? = some w ∧ c ∈ w.calls) ∨ ∃ d, p.InLine d ∧ d.call = c

/-- What has happened from `p` to `q` stayed on worker `i`, and so will what has been set off. -/
structure Confined (i : Nat) (p q : Pool) : Prop where
  /-- Other workers are left alone. -/
  others : ∀ j, j ≠ i → Spares j p q
  /-- Other workers have no turns. -/
  starts : ∀ j, .start j ∈ q.ready → j = i
  /-- No other worker is free, or nobody is in the line. -/
  taken : (∀ j w, j ≠ i → q.workers[j]? = some w → w.isFree = false) ∨ ∀ d, ¬ q.InLine d
  /-- Who is on the worker or in the line was so. -/
  near : ∀ c, Near i q c → Near i p c
  /-- Who ends was on the worker or in the line. -/
  ended : ∀ c o, .ended c o ∈ q.effects → .ended c o ∈ p.effects ∨ Near i p c

/-! ### What operations on one worker leave alone -/

section

variable {p q r : Pool} {i j : Nat} {v : Worker} {fs : List Effect}

theorem Spares.refl (j : Nat) (p : Pool) : Spares j p p :=
  ⟨rfl, [], (List.append_nil _).symm, by simp⟩

theorem Spares.trans (h : Spares j p q) (h' : Spares j q r) : Spares j p r := by
  obtain ⟨fs, he, hfs⟩ := h.seen
  obtain ⟨gs, he', hgs⟩ := h'.seen
  refine ⟨h'.worker.trans h.worker, fs ++ gs, by rw [he', he, List.append_assoc], ?_⟩
  intro e hm
  exact (List.mem_append.1 hm).elim (hfs e) (hgs e)

/-- The workers stay. -/
theorem Spares.same (hws : q.workers = p.workers) (he : q.effects = p.effects ++ fs)
    (hfs : ∀ e ∈ fs, e.worker? ≠ some j) : Spares j p q :=
  ⟨by rw [hws], fs, he, hfs⟩

/-- Another worker changes. -/
theorem Spares.set (hij : j ≠ i) (hws : q.workers = p.workers.set i v)
    (he : q.effects = p.effects ++ fs) (hfs : ∀ e ∈ fs, e.worker? ≠ some j) : Spares j p q :=
  ⟨by rw [hws, List.getElem?_set_ne (Ne.symm hij)], fs, he, hfs⟩

/-- What is about worker `i` at most is not about another one. -/
theorem worker?_ne (hij : j ≠ i) (h : ∀ e ∈ fs, e.worker? = none ∨ e.worker? = some i) :
    ∀ e ∈ fs, e.worker? ≠ some j := by
  intro e he hj
  rcases h e he with h | h
  · rw [h] at hj
    cases hj
  · rw [h] at hj
    exact hij (Option.some.inj hj).symm

theorem spares_notes (p : Pool) (h : ∀ e ∈ fs, e.worker? ≠ some j) : Spares j p (p.notes fs) :=
  .same rfl rfl h

theorem spares_setWorker (hij : j ≠ i) (p : Pool) (v : Worker) : Spares j p (p.setWorker i v) :=
  .set hij rfl (List.append_nil _).symm (by simp)

theorem spares_release (hij : j ≠ i) (p : Pool) : Spares j p (p.release i) := by
  cases hw : p.workers[i]? with
  | none =>
    rw [show p.release i = p by simp [release, hw]]
    exact .refl j p
  | some w =>
    have he : (p.release i).effects = p.effects ++ [] := by rw [effects_release hw, List.append_nil]
    exact .set hij (workers_release hw) he (by simp)

theorem spares_finish (hij : j ≠ i) (p : Pool) (c : Call) (o : Outcome) :
    Spares j p (p.finish i c o) := by
  have hnote : Spares j p (p.note (.ended c o)) := spares_notes p (by simp [Effect.worker?])
  exact hnote.trans (spares_release hij _)

theorem spares_proceed (hij : j ≠ i) (p : Pool) : Spares j p (p.proceed i) := by
  unfold proceed
  split
  next => exact .refl j p
  next w hw =>
    split
    next inv hinv =>
      have hread : ∀ v, Spares j p
          ((p.notes ((inv.decoder.run w.unread).complaints.map .complained)).setWorker i v) := by
        intro v
        exact (spares_notes p (by simp [Effect.worker?])).trans (spares_setWorker hij _ v)
      dsimp only
      split
      · have hdone : ∀ q : Pool, Spares j q
            (q.note (.completed i inv.call (inv.decoder.run w.unread).decoder.reply)) := by
          intro q
          exact spares_notes q (worker?_ne hij (by simp [Effect.worker?]))
        exact ((hread _).trans (hdone _)).trans (spares_finish hij _ _ _)
      · split
        · exact (hread _).trans (spares_finish hij _ _ _)
        · split
          · exact (hread _).trans (spares_finish hij _ _ _)
          · exact hread _
    next => exact .refl j p

theorem spares_start (hij : j ≠ i) (p : Pool) (c : Call) : Spares j p (p.start i c) := by
  unfold start
  split
  next => exact .refl j p
  next w hw =>
    split
    · have hseize : Spares j p (p.seize i w c) :=
        .set hij (workers_seize p i w c) (effects_seize p i w c)
          (worker?_ne hij (by simp [Effect.worker?]))
      exact hseize.trans (spares_proceed hij _)
    · have hnote : Spares j p (p.note (.obtained i c)) :=
        spares_notes p (worker?_ne hij (by simp [Effect.worker?]))
      exact hnote.trans (spares_finish hij _ _ _)

/-- A turn begins a call on one worker, or leaves every worker alone. -/
theorem turn_cases {t : Turn} {ts : List Turn} (h : p.ready = t :: ts) :
    (∃ k c, Comes p k c { p with ready := ts } ∧
      ({ p with ready := ts } : Pool).turn t = ({ p with ready := ts } : Pool).start k c) ∨
    (({ p with ready := ts } : Pool).turn t).workers = p.workers ∧
      ∃ fs, (({ p with ready := ts } : Pool).turn t).effects = p.effects ++ fs ∧
        ∀ e ∈ fs, e.worker? = none := by
  cases t with
  | start k =>
    simp only [turn]
    split
    next c hc =>
      obtain ⟨w, hw, hg⟩ := Option.map_eq_some_iff.1 hc
      exact .inl ⟨k, c, .granted h hw hg, rfl⟩
    next => exact .inr ⟨rfl, [], (List.append_nil _).symm, by simp⟩
  | look d =>
    simp only [turn, look]
    split
    next k hk => exact .inl ⟨k, d.call, .woken h hk rfl, rfl⟩
    next =>
      refine .inr ?_
      split
      · exact ⟨rfl, _, rfl, worker?_of_ended⟩
      · split
        · exact ⟨rfl, _, rfl, worker?_of_ended⟩
        · exact ⟨rfl, [], (List.append_nil _).symm, by simp⟩

end

/-! ### What stays on one worker -/

section

variable {p q r : Pool} {i : Nat} {w v : Worker} {c : Call} {fs : List Effect}

/-- A settled pool in which no wake-up was lost. -/
theorem confined_refl (hh : p.Heard) (hr : p.ready = []) (i : Nat) : Confined i p p := by
  refine ⟨fun j _ => .refl j p, ?_, ?_, fun _ => id, fun _ _ => .inl⟩
  · intro j hj
    rw [hr] at hj
    cases hj
  · by_cases hwait : p.waiting = []
    · right
      rintro d (hd | hd)
      · rw [hwait] at hd
        cases hd
      · rw [hr] at hd
        cases hd
    · left
      intro j w _ hw
      exact isFree_of_waiting hh hr hwait w (List.mem_of_getElem? hw)

/-- No worker changes, and nobody joins the line. -/
theorem Confined.same (h : Confined i p q) (hws : r.workers = q.workers)
    (he : r.effects = q.effects) (hline : ∀ d, r.InLine d → q.InLine d)
    (hstarts : ∀ j, .start j ∈ r.ready → .start j ∈ q.ready) : Confined i p r := by
  refine ⟨fun j hj => ?_, fun j hj => h.starts j (hstarts j hj), ?_, ?_, ?_⟩
  · exact (h.others j hj).trans (.same hws (he.trans (List.append_nil _).symm) (by simp))
  · rw [hws]
    exact h.taken.imp_right fun hno d hd => hno d (hline d hd)
  · rintro c (hc | ⟨d, hd, rfl⟩)
    · rw [hws] at hc
      exact h.near c (.inl hc)
    · exact h.near _ (.inr ⟨d, hline d hd, rfl⟩)
  · rw [he]
    exact h.ended

/-- The worker changes, and nobody joins it or the line. -/
theorem Confined.set (h : Confined i p q) (hws : r.workers = q.workers.set i v)
    (he : r.effects = q.effects ++ fs) (hfs : ∀ e ∈ fs, e.worker? = none ∨ e.worker? = some i)
    (hended : ∀ c o, .ended c o ∈ fs → Near i p c) (hcalls : ∀ c ∈ v.calls, Near i p c)
    (hline : ∀ d, r.InLine d → q.InLine d)
    (hstarts : ∀ j, .start j ∈ r.ready → j = i ∨ .start j ∈ q.ready) : Confined i p r := by
  refine ⟨fun j hj => ?_, fun j hj => ?_, ?_, ?_, fun c o hc => ?_⟩
  · exact (h.others j hj).trans (.set hj hws he (worker?_ne hj hfs))
  · exact (hstarts j hj).elim id (h.starts j)
  · refine h.taken.imp (fun hfree j w hj hw => ?_) fun hno d hd => hno d (hline d hd)
    rw [hws, List.getElem?_set_ne (Ne.symm hj)] at hw
    exact hfree j w hj hw
  · rintro c (⟨w, hw, hc⟩ | ⟨d, hd, rfl⟩)
    · obtain ⟨-, rfl⟩ | ⟨hne, -⟩ := worker_of_set hws hw
      · exact hcalls c hc
      · exact absurd rfl hne
    · exact h.near _ (.inr ⟨d, hline d hd, rfl⟩)
  · rw [he] at hc
    rcases List.mem_append.1 hc with hc | hc
    · exact h.ended c o hc
    · exact .inr (hended c o hc)

/-- What is on the worker is near it. -/
theorem Confined.near_of_calls (h : Confined i p q) (hw : q.workers[i]? = some w)
    (hc : c ∈ w.calls) : Near i p c :=
  h.near c (.inl ⟨w, hw, hc⟩)

theorem Confined.notes (h : Confined i p q)
    (hfs : ∀ e ∈ fs, e.worker? = none ∨ e.worker? = some i)
    (hended : ∀ c o, .ended c o ∈ fs → Near i p c) : Confined i p (q.notes fs) := by
  refine ⟨fun j hj => (h.others j hj).trans (spares_notes q (worker?_ne hj hfs)), h.starts, h.taken,
    h.near, fun c o hc => ?_⟩
  rcases List.mem_append.1 hc with hc | hc
  · exact h.ended c o hc
  · exact .inr (hended c o hc)

/-- The worker changes and keeps its calls. -/
theorem Confined.setWorker (h : Confined i p q) (hw : q.workers[i]? = some w)
    (hcalls : ∀ c ∈ v.calls, c ∈ w.calls) : Confined i p (q.setWorker i v) :=
  h.set rfl (List.append_nil _).symm (by simp) (by simp)
    (fun c hc => h.near_of_calls hw (hcalls c hc)) (fun _ => id) fun _ => .inr

/-- The worker passes to the first call in its queue, and one waiting call is woken. -/
theorem Confined.release (h : Confined i p q) (hw : q.workers[i]? = some w) :
    Confined i p (q.release i) := by
  have he : (q.release i).effects = q.effects ++ [] := by rw [effects_release hw, List.append_nil]
  refine h.set (workers_release hw) he (by simp) (by simp) (fun c hc => ?_)
    (fun d => inLine_of_passedOn (waiting_release hw) (ready_release hw)) fun j hj => ?_
  · rw [w.calls_passedOn] at hc
    exact h.near_of_calls hw (List.mem_append_right _ hc)
  · rw [ready_release hw, List.mem_append, List.mem_append] at hj
    rcases hj with (hj | hj) | hj
    · exact .inr hj
    · exact .inl (eq_of_start_mem_grantTurns hj)
    · exact absurd hj (start_not_mem_wokenTurns _ j)

theorem Confined.finish (h : Confined i p q) (hw : q.workers[i]? = some w) (hc : Near i p c)
    (o : Outcome) : Confined i p (q.finish i c o) := by
  have hnote : Confined i p (q.note (.ended c o)) := by
    refine h.notes (by simp [Effect.worker?]) fun d o' hd => ?_
    obtain ⟨rfl, -⟩ : d = c ∧ o' = o := by simpa using hd
    exact hc
  exact hnote.release hw

theorem Confined.proceed (h : Confined i p q) : Confined i p (q.proceed i) := by
  unfold Pool.proceed
  split
  next => exact h
  next w hw =>
    split
    next inv hinv =>
      set run := inv.decoder.run w.unread
      have hnotes : Confined i p (q.notes (run.complaints.map .complained)) :=
        h.notes (by simp [Effect.worker?]) (by simp)
      have hcall : Near i p inv.call := by
        refine h.near_of_calls hw (List.mem_append_left _ ?_)
        simp [hinv, Hold.calls]
      have hset : ∀ v : Worker, v.calls = w.calls →
          Confined i p ((q.notes (run.complaints.map .complained)).setWorker i v) := by
        intro v hv
        exact hnotes.setWorker hw fun c hc => by rwa [← hv]
      have hget : ∀ v : Worker,
          ((q.notes (run.complaints.map .complained)).setWorker i v).workers[i]? = some v :=
        getElem?_setWorker (p := q.notes _) hw
      dsimp only
      split
      · have hdone : ∀ r : Pool, Confined i p r →
            Confined i p (r.note (.completed i inv.call run.decoder.reply)) := by
          intro r hr
          exact hr.notes (by simp [Effect.worker?]) (by simp)
        exact (hdone _ (hset { w with unread := run.rest } rfl)).finish (hget _) hcall _
      · split
        · exact (hset { w with unread := run.rest, terminated := true } rfl).finish (hget _) hcall _
        · split
          · exact (hset { w with unread := run.rest } rfl).finish (hget _) hcall _
          · exact hset _ (by simp [Worker.calls, Hold.calls, hinv])
    next => exact h

/-- A call that was near the worker gets it. -/
theorem Confined.start (h : Confined i p q) (hc : Near i p c) : Confined i p (q.start i c) := by
  unfold Pool.start
  split
  next => exact h
  next w hw =>
    split
    · refine Confined.proceed ?_
      refine h.set (workers_seize q i w c) (effects_seize q i w c) (by simp [Effect.worker?])
        (by simp) (fun d hd => ?_) (fun _ => id) fun _ => .inr
      rcases List.mem_cons.1 hd with rfl | hd
      · exact hc
      · exact h.near_of_calls hw (List.mem_append_right _ hd)
    · have hnote : Confined i p (q.note (.obtained i c)) :=
        h.notes (by simp [Effect.worker?]) (by simp)
      exact hnote.finish hw hc _

/-- A turn is taken from the line. -/
theorem Confined.rest {t : Turn} {ts : List Turn} (h : Confined i p q) (hr : q.ready = t :: ts)
    (b : Bool) : Confined i p { q with ready := ts, permit := b } := by
  have hts : ts ⊆ q.ready := by
    rw [hr]
    exact List.subset_cons_self t ts
  exact h.same rfl rfl (fun d hd => hd.imp_right (hts ·)) fun j => (hts ·)

/-- A call that looks was in the line, so no worker is free but this one. -/
theorem Confined.free_eq {d : Waiter} {k : Nat} (h : Confined i p q) (hd : q.InLine d)
    (hk : q.freeWorker? = some k) : k = i := by
  obtain ⟨w, hw, hfree⟩ := isFree_of_freeWorker? hk
  by_contra hki
  rcases h.taken with htaken | hno
  · rw [htaken k w hki hw] at hfree
    cases hfree
  · exact hno d hd

theorem Confined.look {d : Waiter} {ts : List Turn} (h : Confined i p q)
    (hr : q.ready = .look d :: ts) : Confined i p (({ q with ready := ts } : Pool).look d) := by
  have hd : q.InLine d := .inr (by rw [hr]; exact List.mem_cons_self)
  have hnear : Near i p d.call := h.near _ (.inr ⟨d, hd, rfl⟩)
  have haway : ∀ b, Confined i p
      (({ q with ready := ts, permit := b } : Pool).note (.ended d.call unavailable)) := by
    intro b
    refine (h.rest hr b).notes (by simp [Effect.worker?]) fun c o hc => ?_
    obtain ⟨rfl, -⟩ : c = d.call ∧ o = unavailable := by simpa using hc
    exact hnear
  unfold Pool.look
  split
  next k hk =>
    obtain rfl : k = i := h.free_eq hd hk
    exact (h.rest hr q.permit).start hnear
  next =>
    split
    · exact haway q.permit
    · split
      · exact haway false
      · -- the call goes back to the end of the line
        have hts : ts ⊆ q.ready := by
          rw [hr]
          exact List.subset_cons_self _ ts
        refine h.same rfl rfl ?_ fun j => (hts ·)
        rintro e (he | he)
        · rcases List.mem_append.1 he with he | he
          · exact .inl he
          · rw [List.mem_singleton.1 he]
            exact hd
        · exact .inr (hts he)

theorem Confined.turn {t : Turn} {ts : List Turn} (h : Confined i p q) (hr : q.ready = t :: ts) :
    Confined i p (({ q with ready := ts } : Pool).turn t) := by
  cases t with
  | start j =>
    obtain rfl : j = i := h.starts j (by rw [hr]; exact List.mem_cons_self)
    simp only [Pool.turn]
    split
    next c hc =>
      obtain ⟨w, hw, hg⟩ := Option.map_eq_some_iff.1 hc
      refine (h.rest hr q.permit).start (h.near_of_calls hw (List.mem_append_left _ ?_))
      simp [hg, Hold.calls]
    next => exact h.rest hr q.permit
  | look d => exact h.look hr

theorem Confined.settle (h : Confined i p q) : Confined i p q.settle := by
  induction q using settle.induct with
  | case1 q hr => rwa [settle_of_nil hr]
  | case2 q t ts hr ih =>
    rw [settle_of_cons hr]
    exact ih (h.turn hr)

/-! ### Actions on one worker -/

variable (h : Confined i p q)
include h

theorem Confined.die (hw : q.workers[i]? = some w) : Confined i p (q.die i w) := by
  have hset := h.setWorker hw (v := { w with
    alive := false, reading := false, terminated := true, outWaiting := [], errWaiting := []
    unread := w.unread ++ Output.last w.outWaiting }) fun _ => id
  exact hset.notes (fun e he => .inl (worker?_of_said e he)) (by simp [said])

theorem Confined.stop : Confined i p (q.stop i) := by
  unfold Pool.stop
  split
  next => exact h
  next w hw =>
    split
    · exact (h.die hw).proceed.settle
    · exact h.setWorker hw fun _ => id

theorem Confined.exit : Confined i p (q.exit i).2 := by
  unfold Pool.exit
  split
  next => exact h
  next w hw =>
    split
    · have hdie := h.die hw
      have hnote : Confined i p ((q.die i w).note (.exitedUnexpectedly i)) :=
        hdie.notes (by simp [Effect.worker?]) (by simp)
      dsimp only
      split
      · exact hdie.proceed.settle
      · exact hnote.proceed.settle
    · exact h

theorem Confined.stdout (data : List UInt8) : Confined i p (q.stdout i data).2 := by
  unfold Pool.stdout
  split
  next => exact h
  next w hw =>
    split
    · exact (h.setWorker hw (v := { w with
        outWaiting := (Output.feed w.outWaiting data).2
        unread := w.unread ++ (Output.feed w.outWaiting data).1 }) fun _ => id).proceed.settle
    · exact h

theorem Confined.stderr (data : List UInt8) : Confined i p (q.stderr i data).2 := by
  unfold Pool.stderr
  split
  next => exact h
  next w hw =>
    split
    · have hset := h.setWorker hw (v := { w with
        errWaiting := (Output.feed w.errWaiting data).2 }) fun _ => id
      exact hset.notes (fun e he => .inl (worker?_of_said e he)) (by simp [said])
    · exact h

theorem Confined.closeStdin : Confined i p (q.closeStdin i) := by
  unfold Pool.closeStdin
  cases hw : q.workers[i]? with
  | none =>
    rw [List.modify_eq_self (List.getElem?_eq_none_iff.1 hw)]
    exact h
  | some w =>
    rw [modify_eq_set_of_getElem? hw]
    exact h.setWorker hw (v := { w with reading := false }) fun _ => id

/-- A call is dropped that has the worker or waits for it. -/
theorem Confined.cancel {name : String} (hi : q.holder? name = some i) :
    Confined i p (q.cancel name).2 := by
  unfold holder? at hi
  unfold Pool.cancel
  cases hrun : q.workers.findIdx? (runs name) with
  | some k =>
    rw [hrun, Option.some_or] at hi
    obtain ⟨hlt, -⟩ := List.findIdx?_eq_some_iff_getElem.1 hrun
    cases hi
    exact (h.release (List.getElem?_eq_getElem hlt)).settle
  | none =>
    rw [hrun, Option.none_or] at hi
    obtain ⟨hlt, -⟩ := List.findIdx?_eq_some_iff_getElem.1 hi
    have hw := List.getElem?_eq_getElem hlt
    rw [hi]
    dsimp only
    rw [modify_eq_set_of_getElem? hw]
    refine h.setWorker hw (v := { q.workers[i] with
      queue := q.workers[i].queue.filter (·.name != name) }) fun c hc => ?_
    exact (List.Sublist.append_left List.filter_sublist _).subset hc

end

/-- An action on a worker stays there. -/
theorem confined_step {p : Pool} {i : Nat} {a : Action} (hh : p.Heard) (hr : p.ready = [])
    (ha : a.worker? p = some i) : Confined i p.unseen (p.step a).2 := by
  have hunseen : p.unseen.Heard := hh
  have h : Confined i p.unseen p.unseen := confined_refl hunseen hr i
  cases a with
  | stdout k data =>
    cases ha
    exact h.stdout data
  | stderr k data =>
    cases ha
    exact h.stderr data
  | closeStdin k =>
    cases ha
    exact h.closeStdin
  | exit k =>
    cases ha
    exact h.exit
  | terminate k =>
    cases ha
    rw [step_terminate]
    exact h.stop
  | cancel name => exact h.cancel ha
  | _ => cases ha

/-! ### Runs -/

section

variable {s : PoolSettings} {n : Nat} {as : List Action}

theorem exists_of_runs {name : String} {w : Worker} (h : runs name w = true) :
    ∃ c ∈ w.hold.calls, c.name = name := by
  obtain ⟨inv, hinv, hname⟩ := runs_eq_true_iff.1 h
  exact ⟨inv.call, by simp [hinv, Hold.calls], hname⟩

theorem exists_of_queues {name : String} {w : Worker} (h : queues name w = true) :
    ∃ c ∈ w.queue, c.name = name := by
  obtain ⟨c, hc, hname⟩ := List.any_eq_true.1 h
  exact ⟨c, hc, beq_iff_eq.1 hname⟩

/-- If no two calls of a run have one name, a name is on one worker, and only once. -/
theorem name_on_one (h : ((made (launched s n) as).map (·.name)).Nodup) {i j : Nat} {v w : Worker}
    {c d : Call} (hv : ((launched s n).after as).workers[j]? = some v)
    (hw : ((launched s n).after as).workers[i]? = some w) (hd : d ∈ v.calls) (hc : c ∈ w.calls)
    (hname : d.name = c.name) : d = c ∧ j = i := by
  obtain ⟨gone, hl, -, -⟩ := ledger_after s n as
  have hmade : ∀ {k : Nat} {u : Worker} {e : Call},
      ((launched s n).after as).workers[k]? = some u → e ∈ u.calls → e ∈ made (launched s n) as :=
    fun hu he => hl.mem_made (List.mem_append_left _ (mem_callsOn_iff.2 ⟨_, _, hu, he⟩))
  obtain rfl := List.inj_on_of_nodup_map h (hmade hv hd) (hmade hw hc) hname
  exact ⟨rfl, worker_eq_of_nodup (List.nodup_append.1 (hl.nodup_calls h.of_map)).1 hv hw hd hc⟩

/-- A call is not in progress on a worker and in its queue. -/
theorem not_mem_queue_of_mem_hold (h : (made (launched s n) as).Nodup) {w : Worker} {c : Call}
    (hw : w ∈ ((launched s n).after as).workers) (hc : c ∈ w.hold.calls) : c ∉ w.queue := by
  obtain ⟨gone, hl, -, -⟩ := ledger_after s n as
  have hcalls := (List.nodup_append.1 (hl.nodup_calls h)).1
  have hnodup := (List.nodup_flatMap.1 hcalls).1 w hw
  exact fun hq => (List.nodup_append.1 hnodup).2.2 c hc c hq rfl

/-- Looking for a name finds the worker that the call of this name is on. -/
theorem findIdx?_of_mem_calls (h : ((made (launched s n) as).map (·.name)).Nodup) {i : Nat}
    {w : Worker} {c : Call} {f : Worker → Bool}
    (hw : ((launched s n).after as).workers[i]? = some w) (hc : c ∈ w.calls)
    (hf : ∀ v, f v = true → ∃ d ∈ v.calls, d.name = c.name) (hfw : f w = true) :
    ((launched s n).after as).workers.findIdx? f = some i := by
  obtain ⟨hi, hiw⟩ := List.getElem?_eq_some_iff.1 hw
  refine List.findIdx?_eq_some_iff_getElem.2 ⟨hi, by rwa [hiw], fun j hj hfj => ?_⟩
  obtain ⟨d, hd, hname⟩ := hf _ hfj
  have hji := (name_on_one h (List.getElem?_eq_getElem (hj.trans hi)) hw hd hc hname).2
  omega

/-- If no two calls of a run have one name, the worker from which a name is dropped is the one that
the call of this name is on. -/
theorem holder?_of_mem_calls (h : ((made (launched s n) as).map (·.name)).Nodup) {i : Nat}
    {w : Worker} {c : Call} (hw : ((launched s n).after as).workers[i]? = some w)
    (hc : c ∈ w.calls) : ((launched s n).after as).holder? c.name = some i := by
  unfold holder?
  rcases List.mem_append.1 hc with hhold | hqueue
  · have hfree : w.hold ≠ .free := fun hf => by simp [hf, Hold.calls] at hhold
    obtain ⟨inv, hinv⟩ := running_of_not_free (hasTurns_after s n as) (ready_after rfl as)
      (List.mem_of_getElem? hw) hfree
    rw [hinv] at hhold
    obtain rfl := List.mem_singleton.1 hhold
    have hrun := findIdx?_of_mem_calls h hw hc
      (fun v hv => (exists_of_runs hv).imp fun d => .imp_left (List.mem_append_left _))
      (runs_eq_true_iff.2 ⟨inv, hinv, rfl⟩)
    rw [hrun, Option.some_or]
  · have hrun : ((launched s n).after as).workers.findIdx? (runs c.name) = none := by
      refine List.findIdx?_eq_none_iff.2 fun v hv => ?_
      by_contra hrun
      obtain ⟨d, hd, hname⟩ := exists_of_runs (Bool.not_eq_false _ ▸ hrun)
      obtain ⟨j, hj⟩ := List.mem_iff_getElem?.1 hv
      obtain ⟨rfl, rfl⟩ := name_on_one h hj hw (List.mem_append_left _ hd) hc hname
      rw [Option.some.inj (hj.symm.trans hw)] at hd
      exact not_mem_queue_of_mem_hold h.of_map (List.mem_of_getElem? hw) hd hqueue
    have hqueued := findIdx?_of_mem_calls h hw hc
      (fun v hv => (exists_of_queues hv).imp fun d => .imp_left (List.mem_append_right _))
      (List.any_eq_true.2 ⟨c, hqueue, beq_iff_eq.2 rfl⟩)
    rw [hrun, hqueued, Option.none_or]

end

/-- After every run an action on worker `i` leaves every other worker as it is, shows nothing of the
calls on it, and ends only calls on worker `i` and calls that waited for any worker. -/
theorem others_undisturbed (s : PoolSettings) (n : Nat) (as : List Action) (a : Action) (i : Nat)
    (h : a.worker? ((launched s n).after as) = some i) :
    (∀ j, j ≠ i →
      (((launched s n).after as).step a).2.workers[j]? = ((launched s n).after as).workers[j]? ∧
        ∀ e ∈ (((launched s n).after as).step a).2.effects, e.worker? ≠ some j) ∧
    ∀ c o, .ended c o ∈ (((launched s n).after as).step a).2.effects →
      (∃ w, ((launched s n).after as).workers[i]? = some w ∧ c ∈ w.calls) ∨
        c ∈ ((launched s n).after as).waiting.map (·.call) := by
  have hr : ((launched s n).after as).ready = [] := ready_after rfl as
  have hconfined := confined_step (heard_after s n as) hr h
  refine ⟨fun j hj => ?_, fun c o hc => ?_⟩
  · obtain ⟨hworker, fs, he, hfs⟩ := hconfined.others j hj
    rw [effects_unseen, List.nil_append] at he
    exact ⟨hworker, by rwa [he]⟩
  · rcases hconfined.ended c o hc with hc | hc | ⟨d, hd | hd, rfl⟩
    · cases hc
    · exact .inl hc
    · exact .inr (List.mem_map_of_mem hd)
    · rw [ready_unseen, hr] at hd
      cases hd

/-- An interpreter dies while a call is in progress on it, one waits for it and one waits for any:
the other worker stays as it is with its call in progress. -/
theorem others_undisturbed_by_exit :
    let p := (launched .plain 2).after [.dispatch (.plain "a"), .dispatch (.plain "b"),
      .handle 0 (.plain "c"), .dispatch (.plain "d")]
    (Action.exit 0).worker? p = some 0 ∧ (p.step (.exit 0)).2.workers[1]? = p.workers[1]? ∧
      p.callOn 1 = some (.plain "b") ∧
      .ended (.plain "c") (.failed (.write 0)) ∈ (p.step (.exit 0)).2.effects := by
  intro p
  have h : (Action.exit 0).worker? p = some 0 := rfl
  have hothers := (others_undisturbed .plain 2 _ (.exit 0) 0 h).1 1 (by decide)
  refine ⟨h, hothers.1, ?_, ?_⟩
  · decide +kernel
  · decide +kernel

end Pool

end FunctionHost
