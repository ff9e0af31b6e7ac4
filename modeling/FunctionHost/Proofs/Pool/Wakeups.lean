import FunctionHost.Proofs.Pool.Shape
/-!
# Wake-ups are not lost

A worker that becomes free wakes one waiting call, and a woken call may find the worker taken and
wait again. What keeps the wake-ups from being lost is a count: as long as some call waits, no more
workers are free than woken calls are still to look (`Heard`). Every move keeps it, because a
worker becomes free only with a wake-up, and a woken call that finds none free proves that there is
none.

Main statement: `running_of_waiting`, in a settled pool in which a call waits, every worker that is
not terminated has an invocation in progress.
-/

namespace FunctionHost.Pool

/-- How many workers can be taken at once. -/
def freeCount (p : Pool) : Nat := p.workers.countP Worker.isFree

/-- As long as some call waits, no more workers are free than woken calls are still to look. -/
def Heard (p : Pool) : Prop := p.waiting = [] ∨ p.freeCount ≤ looks p.ready

section

variable {p q : Pool} {i : Nat} {w v : Worker}

theorem freeCount_set (hw : p.workers[i]? = some w) (hq : q.workers = p.workers.set i v) :
    q.freeCount + w.isFree.toNat = p.freeCount + v.isFree.toNat := by
  obtain ⟨hi, rfl⟩ := List.getElem?_eq_some_iff.1 hw
  unfold freeCount
  rw [hq, List.countP_set hi]
  have hpos : p.workers[i].isFree = true → 0 < p.workers.countP Worker.isFree := fun hf =>
    List.countP_pos_iff.2 ⟨_, List.getElem_mem hi, hf⟩
  cases hf : p.workers[i].isFree <;> cases v.isFree <;> simp_all

theorem freeCount_eq_zero_iff : p.freeCount = 0 ↔ ∀ w ∈ p.workers, w.isFree = false := by
  simp [freeCount]

theorem isFree_of_running {inv : Invocation} (h : w.hold = .running inv) : w.isFree = false := by
  simp [Worker.isFree, h]

theorem isFree_of_granted {c : Call} (h : w.hold = .granted c) : w.isFree = false := by
  simp [Worker.isFree, h]

@[simp] theorem looks_cons_look (d : Waiter) (ts : List Turn) :
    looks (.look d :: ts) = looks ts + 1 := by
  rw [← List.singleton_append, looks_append, looks_look, Nat.add_comm]

@[simp] theorem looks_cons_start (j : Nat) (ts : List Turn) :
    looks (.start j :: ts) = looks ts := by
  rw [← List.singleton_append, looks_append, looks_start, Nat.zero_add]

theorem looks_grantTurns (w : Worker) (i : Nat) : looks (w.grantTurns i) = 0 := by
  unfold Worker.grantTurns
  split <;> rfl

theorem looks_wokenTurns (ds : List Waiter) (h : ds ≠ []) : looks (wokenTurns ds) = 1 := by
  cases ds with
  | nil => exact absurd rfl h
  | cons d ds => rfl

/-- A worker that is passed on frees at most itself, and wakes one call if any waits. The hypothesis
leaves out a call that has just been taken from the turns to this worker. -/
theorem heard_of_passedOn (hw : p.workers[i]? = some w)
    (h : p.waiting = [] ∨ p.freeCount ≤ looks p.ready + w.isFree.toNat)
    (hws : q.workers = p.workers.set i w.passedOn) (hwait : q.waiting = p.waiting.tail)
    (hready : q.ready = p.ready ++ w.grantTurns i ++ wokenTurns p.waiting) : q.Heard := by
  by_cases hq : q.waiting = []
  · exact .inl hq
  · have hp : p.waiting ≠ [] := fun hp => hq (by rw [hwait, hp, List.tail_nil])
    have hfree := freeCount_set hw hws
    have hle : w.passedOn.isFree.toNat ≤ 1 := Bool.toNat_le _
    have hlooks : looks q.ready = looks p.ready + 1 := by
      rw [hready, looks_append, looks_append, looks_grantTurns, looks_wokenTurns _ hp]
    have h := h.resolve_left hp
    exact .inr (by omega)

theorem Heard.finish (h : p.Heard) (hw : p.workers[i]? = some w) (c : Call) (o : Outcome) :
    (p.finish i c o).Heard :=
  heard_of_passedOn hw (h.imp_right (Nat.le_add_right_of_le ·)) (workers_finish hw c o)
    (waiting_finish hw c o) (ready_finish hw c o)

theorem Heard.release (h : p.Heard) (hw : p.workers[i]? = some w) : (p.release i).Heard :=
  heard_of_passedOn hw (h.imp_right (Nat.le_add_right_of_le ·)) (workers_release hw)
    (waiting_release hw) (ready_release hw)

/-- A changed worker that is free only if it was keeps the count. -/
theorem Heard.set (h : p.Heard) (hw : p.workers[i]? = some w)
    (hws : q.workers = p.workers.set i v) (hwait : q.waiting = p.waiting)
    (hready : q.ready = p.ready) (hv : v.isFree = true → w.isFree = true) : q.Heard := by
  have hfree := freeCount_set hw hws
  have hle : v.isFree.toNat ≤ w.isFree.toNat := by
    cases hvf : v.isFree
    · simp
    · simp [hv hvf]
  unfold Heard
  rw [hwait, hready]
  exact h.imp_right fun h => by omega

/-- The call that has its turn is counted with the worker if it takes a free one. -/
theorem Heard.comes {c : Call} (h : p.Heard) (hc : Comes p i c q) (hw : q.workers[i]? = some w) :
    q.waiting = [] ∨ q.freeCount ≤ looks q.ready + w.isFree.toNat := by
  have hfree : q.freeCount = p.freeCount := by unfold freeCount; rw [hc.workers]
  rw [hc.waiting, hfree]
  refine h.imp_right fun h => ?_
  cases hc with
  | granted hr _ _ =>
    rw [hr, looks_cons_start] at h
    exact Nat.le_add_right_of_le h
  | woken hr hf _ =>
    rw [hr, looks_cons_look] at h
    obtain ⟨v, hv, hvf⟩ := isFree_of_freeWorker? hf
    have : w = v := Option.some.inj (hw.symm.trans hv)
    simpa [this, hvf] using h

end

theorem Heard.stir {p q : Pool} (hm : Stir p q) (h : p.Heard) : q.Heard := by
  cases hm with
  | @begins q i c w hc hw hr =>
    have hfree := freeCount_set hw (workers_seize q i w c)
    have hrun : (w.seizedBy c q.clock).isFree = false := isFree_of_running rfl
    rw [hrun] at hfree
    exact (h.comes hc hw).imp_right fun h => by simp at hfree ⊢; omega
  | @fails q i c w hc hw hr =>
    have hw' : (q.note (.obtained i c)).workers[i]? = some w := hw
    have h' := h.comes hc hw
    exact heard_of_passedOn hw' h' (workers_finish hw' _ _) (waiting_finish hw' _ _)
      (ready_finish hw' _ _)
  | idles hr hn =>
    unfold Heard at h
    rw [hr, looks_cons_start] at h
    exact h
  | waits hr hf hd ht =>
    have : p.freeCount = 0 := freeCount_eq_zero_iff.2 (freeWorker?_eq_none_iff.1 hf)
    exact .inr (Nat.le_trans (Nat.le_of_eq this) (Nat.zero_le _))
  | turnsAway b hr hf hd =>
    have : p.freeCount = 0 := freeCount_eq_zero_iff.2 (freeWorker?_eq_none_iff.1 hf)
    exact .inr (Nat.le_trans (Nat.le_of_eq this) (Nat.zero_le _))
  | reads hw hinv hd =>
    exact h.set hw rfl rfl rfl fun hf => by simp [Worker.isFree] at hf
  | completes hw hinv hd =>
    refine Heard.finish (p := note _ _) ?_ (getElem?_setWorker hw _) _ _
    exact h.set hw rfl rfl rfl id
  | closes hw hinv ha hu =>
    refine Heard.finish ?_ (getElem?_setWorker hw _) _ _
    exact h.set hw rfl rfl rfl fun hf => by simp [Worker.isFree] at hf
  | expires hw hinv ht => exact h.finish hw _ _
  | givesUp =>
    refine h.imp (fun h => ?_) id
    simp [expireWaiting, h]
  | ticks => exact h
  | errs _ hw => exact h.set hw rfl rfl rfl id
  | deafens hw => exact h.set hw rfl rfl rfl id

theorem Heard.move {p q : Pool} (hm : Move p q) (h : p.Heard) : q.Heard := by
  cases hm with
  | stirs hs => exact h.stir hs
  | wakesAll => exact .inl rfl
  | dies hw ha => exact h.set hw rfl rfl rfl fun hf => by simp [Worker.isFree] at hf
  | reports => exact h
  | marks hw ha => exact h.set hw rfl rfl rfl fun hf => by simp [Worker.isFree] at hf

theorem Heard.change {p q : Pool} (hc : Change p q) (h : p.Heard) : q.Heard := by
  cases hc with
  | forgets => exact h
  | @enters _ c he =>
    cases he with
    | looks => exact h.imp_right fun h => Nat.le_trans h (by simp)
    | @granted i w hw hf =>
      have hset := freeCount_set hw (workers_setWorker p i { w with hold := .granted c })
      rw [hf, isFree_of_granted rfl] at hset
      refine h.imp_right fun h => Nat.le_trans ?_ (Nat.le_trans h (by simp))
      exact Nat.le_of_add_right_le (Nat.le_of_eq hset)
    | queued hw ht hf => exact h.set hw rfl rfl rfl id
    | rejected hw ho => exact h
  | drops hd =>
    cases hd with
    | running hw hinv hn => exact h.release hw
    | queued hw hq => exact h.set hw rfl rfl rfl id
    | waiting hw => exact h.imp_left fun h => by simp [h]
  | prints hp =>
    cases hp with
    | feeds hw ha => exact h.set hw rfl rfl rfl id
  | moves hm => exact h.move hm

theorem heard_after (s : PoolSettings) (n : Nat) (as : List Action) :
    ((launched s n).after as).Heard :=
  after_invariant (fun _ _ => Heard.change) rfl (.inl rfl) as

/-- In a settled pool in which a call waits no worker is free. -/
theorem isFree_of_waiting {p : Pool} (h : p.Heard) (hr : p.ready = []) (hw : p.waiting ≠ []) :
    ∀ w ∈ p.workers, w.isFree = false := by
  have := h.resolve_left hw
  rw [hr] at this
  exact freeCount_eq_zero_iff.1 (Nat.le_zero.1 this)

/-- In a settled pool with a free worker no call waits. -/
theorem waiting_eq_nil_of_isFree {p : Pool} (h : p.Heard) (hr : p.ready = []) {w : Worker}
    (hw : w ∈ p.workers) (hf : w.isFree = true) : p.waiting = [] := by
  by_contra hwait
  have hnone := isFree_of_waiting h hr hwait w hw
  rw [hf] at hnone
  cases hnone

/-- If no wake-up was lost, a settled pool in which a call waits has no idle worker. -/
theorem Heard.running {p : Pool} (h : p.Heard) (ht : p.HasTurns) (hr : p.ready = [])
    (hwait : p.waiting ≠ []) {w : Worker} (hw : w ∈ p.workers) (hlive : w.terminated = false) :
    ∃ inv, w.hold = .running inv := by
  refine running_of_not_free ht hr hw fun hfree => ?_
  have hf := isFree_of_waiting h hr hwait w hw
  rw [isFree_iff.2 ⟨hlive, hfree⟩] at hf
  exact Bool.noConfusion hf

/-- After every run, if a call waits for any worker, every worker that is not terminated has an
invocation in progress. -/
theorem running_of_waiting (s : PoolSettings) (n : Nat) (as : List Action)
    (h : ((launched s n).after as).waiting ≠ []) (w : Worker)
    (hw : w ∈ ((launched s n).after as).workers) (ht : w.terminated = false) :
    ∃ inv, w.hold = .running inv :=
  (heard_after s n as).running (hasTurns_after s n as) (ready_after rfl as) h hw ht

/-- Of two calls on a pool of one worker, the second waits and the first is in progress. -/
theorem running_of_two_dispatched :
    let p := (launched .plain 1).after [.dispatch (.plain "a"), .dispatch (.plain "b")]
    p.waiting ≠ [] ∧ ∃ w ∈ p.workers, w.terminated = false ∧ ∃ inv, w.hold = .running inv := by
  intro p
  have hwait : p.waiting ≠ [] := by decide +kernel
  obtain ⟨w, hw, ht⟩ : ∃ w ∈ p.workers, w.terminated = false := by decide +kernel
  exact ⟨hwait, w, hw, ht, running_of_waiting .plain 1 _ hwait w hw ht⟩

end FunctionHost.Pool
