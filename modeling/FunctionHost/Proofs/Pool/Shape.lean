import FunctionHost.Proofs.Pool.Step
/-!
# The shape of a pool

Three things about a worker are always true (`Worker.Sound`): nobody waits for a free worker, a
worker is terminated exactly if its process is dead, and a dead process does not read. And a call
that was granted a worker has a turn to begin (`HasTurns`). Main statement: `running_of_not_free`,
in a settled pool a worker that is not free has an invocation in progress.
-/

namespace FunctionHost

open Pool

/-- What is always true of a worker. -/
structure Worker.Sound (w : Worker) : Prop where
  /-- Nobody waits for a free worker. -/
  queue : w.hold = .free → w.queue = []
  /-- A worker is terminated exactly if its process is dead. -/
  terminated : w.terminated = !w.alive
  /-- A dead process does not read. -/
  reading : w.alive = false → w.reading = false

theorem Worker.Sound.passedOn {w : Worker} (h : w.Sound) : w.passedOn.Sound where
  queue := w.queue_passedOn_of_free
  terminated := by simpa using h.terminated
  reading := by simpa using h.reading

namespace Pool

/-- Every worker is sound. -/
def Sound (p : Pool) : Prop := ∀ w ∈ p.workers, w.Sound

theorem forall_mem_set {P : Worker → Prop} {ws : List Worker} (h : ∀ w ∈ ws, P w) {w : Worker}
    (hw : P w) (i : Nat) : ∀ v ∈ ws.set i w, P v := fun v hv => by
  rcases List.mem_or_eq_of_mem_set hv with hv | rfl
  · exact h v hv
  · exact hw

section

variable {p : Pool} {i : Nat} {w : Worker}

theorem Sound.at (h : p.Sound) (hw : p.workers[i]? = some w) : w.Sound :=
  h w (List.mem_of_getElem? hw)

theorem Sound.setWorker (h : p.Sound) (hw : w.Sound) : (p.setWorker i w).Sound :=
  forall_mem_set h hw i

theorem Sound.finish (h : p.Sound) (hw : p.workers[i]? = some w) (c : Call) (o : Outcome) :
    (p.finish i c o).Sound := by
  unfold Sound
  rw [workers_finish hw]
  exact forall_mem_set h (h.at hw).passedOn i

theorem Sound.release (h : p.Sound) (hw : p.workers[i]? = some w) : (p.release i).Sound := by
  unfold Sound
  rw [workers_release hw]
  exact forall_mem_set h (h.at hw).passedOn i

end

theorem Sound.stir {p q : Pool} (hm : Stir p q) (h : p.Sound) : q.Sound := by
  cases hm with
  | @begins q _ _ _ hc hw hr =>
    have h : q.Sound := by unfold Sound; rwa [hc.workers]
    have hs := h.at hw
    exact h.setWorker ⟨fun hf => by simp at hf, hs.terminated, hs.reading⟩
  | @fails q _ _ _ hc hw hr =>
    have h : q.Sound := by unfold Sound; rwa [hc.workers]
    exact Sound.finish (p := q.note _) h hw _ _
  | reads hw hinv hd =>
    have hs := h.at hw
    exact h.setWorker ⟨fun hf => by simp at hf, hs.terminated, hs.reading⟩
  | completes hw hinv hd =>
    have hs := h.at hw
    refine Sound.finish (p := note _ _) ?_ (getElem?_setWorker hw _) _ _
    exact h.setWorker ⟨hs.queue, hs.terminated, hs.reading⟩
  | closes hw hinv ha hu =>
    have hs := h.at hw
    refine Sound.finish ?_ (getElem?_setWorker hw _) _ _
    exact h.setWorker ⟨hs.queue, by simp [ha], hs.reading⟩
  | expires hw hinv ht => exact h.finish hw _ _
  | errs _ hw => exact h.setWorker ⟨(h.at hw).queue, (h.at hw).terminated, (h.at hw).reading⟩
  | deafens hw => exact h.setWorker ⟨(h.at hw).queue, (h.at hw).terminated, fun _ => rfl⟩
  | _ => exact h

theorem Sound.move {p q : Pool} (hm : Move p q) (h : p.Sound) : q.Sound := by
  cases hm with
  | stirs hs => exact h.stir hs
  | dies hw ha => exact h.setWorker ⟨(h.at hw).queue, rfl, fun _ => rfl⟩
  | marks hw ha => exact h.setWorker ⟨(h.at hw).queue, by simp [ha], (h.at hw).reading⟩
  | _ => exact h

theorem Sound.change {p q : Pool} (hc : Change p q) (h : p.Sound) : q.Sound := by
  cases hc with
  | forgets => exact h
  | enters he =>
    cases he with
    | looks => exact h
    | granted hw hf =>
      exact h.setWorker ⟨fun hf => by simp at hf, (h.at hw).terminated, (h.at hw).reading⟩
    | queued hw ht hf =>
      exact h.setWorker ⟨fun hf' => absurd hf' hf, (h.at hw).terminated, (h.at hw).reading⟩
    | rejected hw ho => exact h
  | drops hd =>
    cases hd with
    | running hw hinv hn => exact h.release hw
    | queued hw hq =>
      exact h.setWorker ⟨fun hf => by simp [(h.at hw).queue hf], (h.at hw).terminated,
        (h.at hw).reading⟩
    | waiting hw => exact h
  | prints hp =>
    cases hp with
    | feeds hw ha => exact h.setWorker ⟨(h.at hw).queue, (h.at hw).terminated, (h.at hw).reading⟩
  | moves hm => exact h.move hm

/-- A call that was granted a worker has a turn to begin. -/
def HasTurns (p : Pool) : Prop :=
  ∀ i w c, p.workers[i]? = some w → w.hold = .granted c → .start i ∈ p.ready

/-- Changing a worker keeps the turns if it grants nothing, or has a turn itself. -/
theorem HasTurns.set {p q : Pool} {i : Nat} {w : Worker} (h : p.HasTurns)
    (hws : q.workers = p.workers.set i w)
    (hr : ∀ j, j ≠ i → .start j ∈ p.ready → .start j ∈ q.ready)
    (hw : ∀ c, w.hold = .granted c → .start i ∈ q.ready) : q.HasTurns := by
  intro j v c hv hg
  obtain ⟨rfl, rfl⟩ | ⟨hj, hv⟩ := worker_of_set hws hv
  · exact hw c hg
  · exact hr j hj (h j v c hv hg)

/-- A worker's grant sets off its turn. -/
theorem start_mem_grantTurns {w : Worker} {c : Call} (i : Nat)
    (h : w.passedOn.hold = .granted c) : .start i ∈ w.grantTurns i := by
  unfold Worker.passedOn at h
  unfold Worker.grantTurns
  split at h
  · simp at h
  · simp

theorem look_not_mem_grantTurns (w : Worker) (i : Nat) (d : Waiter) :
    .look d ∉ w.grantTurns i := by
  unfold Worker.grantTurns
  split <;> simp

theorem HasTurns.finish {p : Pool} {i : Nat} {w : Worker} (h : p.HasTurns)
    (hw : p.workers[i]? = some w) (c : Call) (o : Outcome) : (p.finish i c o).HasTurns := by
  refine h.set (workers_finish hw c o) (fun j _ hj => ?_) fun c' hg => ?_
  · rw [ready_finish hw]
    simp [hj]
  · rw [ready_finish hw]
    simp [start_mem_grantTurns i hg]

theorem HasTurns.release {p : Pool} {i : Nat} {w : Worker} (h : p.HasTurns)
    (hw : p.workers[i]? = some w) : (p.release i).HasTurns := by
  refine h.set (workers_release hw) (fun j _ hj => ?_) fun c' hg => ?_
  · rw [ready_release hw]
    simp [hj]
  · rw [ready_release hw]
    simp [start_mem_grantTurns i hg]

/-- A changed worker that keeps who has it keeps the turns. -/
theorem HasTurns.setWorker {p : Pool} {i : Nat} {v w : Worker} (h : p.HasTurns)
    (hv : p.workers[i]? = some v) (hw : ∀ c, w.hold = .granted c → v.hold = .granted c) :
    (p.setWorker i w).HasTurns :=
  h.set rfl (fun _ _ hj => hj) fun c hg => h i v c hv (hw c hg)

/-- When a call has its turn, the turns on other workers stay. -/
theorem Comes.start_mem {p q : Pool} {i : Nat} {c : Call} (hc : Comes p i c q) {j : Nat}
    (hj : j ≠ i) (hm : .start j ∈ p.ready) : .start j ∈ q.ready := by
  cases hc with
  | granted hr _ _ =>
    rw [hr] at hm
    simpa [hj] using hm
  | woken hr _ _ =>
    rw [hr] at hm
    simpa using hm

theorem HasTurns.stir {p q : Pool} (hm : Stir p q) (h : p.HasTurns) : q.HasTurns := by
  cases hm with
  | @begins q _ _ w hc hw hr =>
    refine h.set (hc.workers_seize w) (fun j hj hm => hc.start_mem hj hm) ?_
    intro c' hg
    simp [Worker.seizedBy] at hg
  | @fails q i c w hc hw hr =>
    refine h.set (hc.workers_fail hw _) (fun j hj hm => ?_) fun c' hg => ?_
    · rw [ready_finish (p := q.note _) hw]
      simp [hc.start_mem hj hm]
    · rw [ready_finish (p := q.note _) hw]
      simp [start_mem_grantTurns i hg]
  | @idles i ts hr hn =>
    intro j w c hw hg
    have hm := h j w c hw hg
    rw [hr] at hm
    rcases List.mem_cons.1 hm with hj | hm
    · cases hj
      exact absurd hg (hn w hw c)
    · exact hm
  | waits hr hf hd ht =>
    intro j w c hw hg
    have hm := h j w c hw hg
    rw [hr] at hm
    simpa using hm
  | turnsAway b hr hf hd =>
    intro j w c hw hg
    have hm := h j w c hw hg
    rw [hr] at hm
    simpa using hm
  | reads hw hinv hd => exact HasTurns.setWorker (p := p.notes _) h hw fun c hg => by simp at hg
  | completes hw hinv hd =>
    refine HasTurns.finish (p := note _ _) ?_ (getElem?_setWorker hw _) _ _
    exact HasTurns.setWorker (p := p.notes _) h hw fun c hg => hg
  | closes hw hinv ha hu =>
    refine HasTurns.finish ?_ (getElem?_setWorker hw _) _ _
    exact h.setWorker hw fun c hg => hg
  | expires hw hinv ht => exact h.finish hw _ _
  | errs _ hw => exact HasTurns.setWorker h hw fun c hg => hg
  | deafens hw => exact h.setWorker hw fun c hg => hg
  | givesUp => exact h
  | ticks => exact h

theorem HasTurns.move {p q : Pool} (hm : Move p q) (h : p.HasTurns) : q.HasTurns := by
  cases hm with
  | stirs hs => exact h.stir hs
  | wakesAll =>
    intro j w c hw hg
    exact List.mem_append_left _ (h j w c hw hg)
  | dies hw ha => exact HasTurns.setWorker h hw fun c hg => hg
  | reports => exact h
  | marks hw ha => exact h.setWorker hw fun c hg => hg

theorem HasTurns.change {p q : Pool} (hc : Change p q) (h : p.HasTurns) : q.HasTurns := by
  cases hc with
  | forgets => exact h
  | enters he =>
    cases he with
    | looks =>
      intro j w c hw hg
      exact List.mem_append_left _ (h j w c hw hg)
    | granted hw hf =>
      exact h.set rfl (fun j _ hm => List.mem_append_left _ hm) fun c _ => by simp
    | queued hw ht hf => exact h.setWorker hw fun c hg => hg
    | rejected hw ho => exact h
  | drops hd =>
    cases hd with
    | running hw hinv hn => exact h.release hw
    | queued hw hq => exact h.setWorker hw fun c hg => hg
    | waiting hw => exact h
  | prints hp =>
    cases hp with
    | feeds hw ha => exact h.setWorker hw fun c hg => hg
  | moves hm => exact h.move hm

/-! ### Runs -/

theorem launched_worker {s : PoolSettings} {n : Nat} {w : Worker}
    (h : w ∈ (launched s n).workers) : w = {} := List.eq_of_mem_replicate h

theorem sound_launched (s : PoolSettings) (n : Nat) : (launched s n).Sound := fun w hw => by
  rw [launched_worker hw]
  exact ⟨fun _ => rfl, rfl, fun h => by simp at h⟩

theorem hasTurns_launched (s : PoolSettings) (n : Nat) : (launched s n).HasTurns :=
  fun i w c hw hg => by
    rw [launched_worker (List.mem_of_getElem? hw)] at hg
    simp at hg

theorem sound_after (s : PoolSettings) (n : Nat) (as : List Action) :
    ((launched s n).after as).Sound :=
  after_invariant (fun _ _ => Sound.change) rfl (sound_launched s n) as

theorem hasTurns_after (s : PoolSettings) (n : Nat) (as : List Action) :
    ((launched s n).after as).HasTurns :=
  after_invariant (fun _ _ => HasTurns.change) rfl (hasTurns_launched s n) as

/-- In a settled pool nobody has a worker without an invocation. -/
theorem not_granted_of_settled {p : Pool} (h : p.HasTurns) (hr : p.ready = []) {w : Worker}
    (hw : w ∈ p.workers) (c : Call) : w.hold ≠ .granted c := fun hg => by
  obtain ⟨i, hi⟩ := List.mem_iff_getElem?.1 hw
  have := h i w c hi hg
  simp [hr] at this

/-- In a settled pool a worker that is not free has an invocation in progress. -/
theorem running_of_not_free {p : Pool} (h : p.HasTurns) (hr : p.ready = []) {w : Worker}
    (hw : w ∈ p.workers) (hf : w.hold ≠ .free) : ∃ inv, w.hold = .running inv := by
  cases hh : w.hold with
  | free => exact absurd hh hf
  | granted c => exact absurd hh (not_granted_of_settled h hr hw c)
  | running inv => exact ⟨inv, rfl⟩

end Pool

end FunctionHost
