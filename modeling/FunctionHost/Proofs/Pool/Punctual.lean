import FunctionHost.Proofs.Pool.Death
import FunctionHost.Proofs.Pool.Scene
/-!
# Nobody is overdue

When a pool has settled, no invocation has lasted as long as the worker timeout: an invocation that
begins or reads on ends at once if its time is up (`InTime.proceed`), and whenever time is up for
somebody the pool is looked through (`inTime_expire`). And no call waits that has waited as long as
the dispatch timeout (`Hopeful`).

Main statement: `punctual_after`, this is so after every run.
-/

namespace FunctionHost

open Relation

/-- The invocation on a worker, if there is one, has lasted less than `limit` at the time `now`. -/
def Worker.InTime (now limit : Nat) (w : Worker) : Prop :=
  ∀ inv, w.hold = .running inv → now < inv.started + limit

namespace Pool

/-- The invocation on worker `i` has lasted less than the worker timeout. -/
def InTimeAt (i : Nat) (p : Pool) : Prop :=
  ∀ w, p.workers[i]? = some w → w.InTime p.clock p.settings.workerTimeout

/-- Every invocation has lasted less than the worker timeout. -/
def InTime (p : Pool) : Prop := ∀ i, InTimeAt i p

/-- Every call that waits has time left. -/
def Hopeful (p : Pool) : Prop := ∀ d ∈ p.waiting, p.clock < d.deadline

/-- Nobody is overdue. -/
structure Punctual (p : Pool) : Prop where
  /-- Every invocation has lasted less than the worker timeout. -/
  inTime : p.InTime
  /-- Every call that waits has time left. -/
  hopeful : p.Hopeful

/-! ### Invocations end in time -/

section

variable {p q : Pool} {i j : Nat} {w v : Worker}

/-- If a worker changes, the invocations on the others last as long. -/
theorem inTime_of_set (h : ∀ j, j ≠ i → InTimeAt j p) (hscene : q.scene = p.scene)
    (hws : q.workers = p.workers.set i v) (hv : v.InTime p.clock p.settings.workerTimeout) :
    q.InTime := by
  intro j u hu
  rw [clock_of_scene hscene, settings_of_scene hscene]
  obtain ⟨rfl, rfl⟩ | ⟨hj, hu⟩ := worker_of_set hws hu
  · exact hv
  · exact h j hj u hu

theorem inTime_of_not_running {now limit : Nat} (h : ∀ inv, w.hold ≠ .running inv) :
    w.InTime now limit := fun inv hinv => absurd hinv (h inv)

theorem InTime.finish (h : ∀ j, j ≠ i → InTimeAt j p) (hw : p.workers[i]? = some w) (c : Call)
    (o : Outcome) : (p.finish i c o).InTime :=
  inTime_of_set h (scene_finish p i c o) (workers_finish hw c o)
    (inTime_of_not_running w.hold_passedOn_ne_running)

theorem InTime.release (h : p.InTime) (hw : p.workers[i]? = some w) : (p.release i).InTime :=
  inTime_of_set (fun j _ => h j) (scene_release p i) (workers_release hw)
    (inTime_of_not_running w.hold_passedOn_ne_running)

/-- A changed worker with the same invocation. -/
theorem InTime.setSame (h : p.InTime) (hw : p.workers[i]? = some w) (hv : v.hold = w.hold) :
    (p.setWorker i v).InTime := by
  refine inTime_of_set (fun j _ => h j) (scene_setWorker p i v) rfl fun inv hinv => ?_
  exact h i w hw inv (hv.symm.trans hinv)

/-- When an invocation has read, it has not lasted too long, or it has ended. -/
theorem InTime.proceed (h : ∀ j, j ≠ i → InTimeAt j p) : (p.proceed i).InTime := by
  have others : ∀ (es : List Effect) (v : Worker), ∀ j, j ≠ i →
      InTimeAt j ((p.notes es).setWorker i v) := by
    intro es v j hj w hw
    rw [workers_setWorker, List.getElem?_set_ne (Ne.symm hj)] at hw
    exact h j hj w hw
  unfold Pool.proceed
  split
  next hnone =>
    intro j w hw
    by_cases hj : j = i
    · rw [hj, hnone] at hw
      cases hw
    · exact h j hj w hw
  next w hw =>
    have get : ∀ (es : List Effect) (v : Worker),
        ((p.notes es).setWorker i v).workers[i]? = some v := fun es v =>
      getElem?_setWorker (p := p.notes es) hw v
    split
    next inv hinv =>
      dsimp only
      split
      · exact InTime.finish (p := note _ _) (others _ _) (get _ _) _ _
      · split
        · exact InTime.finish (others _ _) (get _ _) _ _
        · split
          · exact InTime.finish (others _ _) (get _ _) _ _
          next htime =>
            refine inTime_of_set (p := p.notes _) h rfl rfl fun inv' hinv' => ?_
            cases hinv'
            exact Nat.not_le.1 htime
    next hrun =>
      intro j v hv
      by_cases hj : j = i
      · rw [hj, hw] at hv
        rw [← Option.some.inj hv]
        exact inTime_of_not_running hrun
      · exact h j hj v hv

theorem InTime.start (h : p.InTime) (i : Nat) (c : Call) : (p.start i c).InTime := by
  unfold Pool.start
  split
  next => exact h
  next w hw =>
    split
    · refine InTime.proceed fun j hj v hv => ?_
      rw [workers_seize, List.getElem?_set_ne (Ne.symm hj)] at hv
      exact h j v hv
    · exact InTime.finish (p := p.note _) (fun j _ => h j) hw _ _

theorem InTime.look (h : p.InTime) (d : Waiter) : (p.look d).InTime := by
  unfold Pool.look
  split
  · exact h.start _ _
  · split
    · exact h
    · split <;> exact h

theorem InTime.turn (h : p.InTime) (t : Turn) : (p.turn t).InTime := by
  cases t with
  | start i =>
    simp only [Pool.turn]
    split
    · exact h.start _ _
    · exact h
  | look d => exact h.look d

theorem InTime.settle (h : p.InTime) : p.settle.InTime := by
  induction p using settle.induct with
  | case1 p hr => rwa [settle_of_nil hr]
  | case2 p t ts hr ih =>
    rw [settle_of_cons hr]
    exact ih (InTime.turn (p := { p with ready := ts }) h t)

/-- The invocation on a worker ends if it has lasted too long, and the others are not touched. -/
theorem inTimeAt_expireWorker (i : Nat) (h : j = i ∨ InTimeAt j p) :
    InTimeAt j (p.expireWorker i) := by
  have same : (∀ w inv, p.workers[i]? = some w → w.hold = .running inv →
      p.clock < inv.started + p.settings.workerTimeout) → InTimeAt j p := fun hi => by
    rcases h with rfl | h
    · exact fun w hw inv hinv => hi w inv hw hinv
    · exact h
  unfold expireWorker
  split
  next inv hinv =>
    obtain ⟨w, hw, hrun⟩ := Option.bind_eq_some_iff.1 hinv
    split
    next =>
      intro v hv
      rw [clock_of_scene (scene_finish p i _ _), settings_of_scene (scene_finish p i _ _)]
      obtain ⟨-, rfl⟩ | ⟨hj, hv⟩ := worker_of_set (workers_finish hw _ _) hv
      · exact inTime_of_not_running w.hold_passedOn_ne_running
      · exact (h.resolve_left hj) v hv
    next htime =>
      refine same fun v inv' hv hinv' => ?_
      rw [Option.some.inj (hv.symm.trans hw), running?_eq_some_iff.1 hrun] at hinv'
      cases hinv'
      exact Nat.not_le.1 htime
  next hnone =>
    refine same fun w inv hw hinv => ?_
    rw [hw, Option.bind_some, running?_eq_some_iff.2 hinv] at hnone
    cases hnone

theorem inTimeAt_foldl_expireWorker (is : List Nat) (h : j ∈ is ∨ InTimeAt j p) :
    InTimeAt j (is.foldl expireWorker p) := by
  induction is generalizing p with
  | nil => exact h.resolve_left List.not_mem_nil
  | cons i is ih =>
    rw [List.mem_cons] at h
    by_cases hj : j ∈ is
    · exact ih (.inl hj)
    · exact ih (.inr (inTimeAt_expireWorker i (h.imp_left fun h => h.resolve_right hj)))

theorem inTime_expireWorkers (p : Pool) : p.expireWorkers.InTime := by
  refine InTime.settle fun j w hw => ?_
  have hlives := lives_of_stirs (foldl_related expireWorker_stirs (List.range p.workers.length) p)
  have hlt := (List.getElem?_eq_some_iff.1 hw).1
  rw [← List.length_map (·.alive), show List.map _ _ = _ from hlives, lives,
    List.length_map] at hlt
  exact inTimeAt_foldl_expireWorker _ (.inl (List.mem_range.2 hlt)) w hw

/-- Whatever time it is, afterwards no invocation has lasted too long, and every call that waits has
time left. -/
theorem inTime_expire (p : Pool) : p.expire.InTime ∧ p.expire.Hopeful := by
  refine ⟨inTime_expireWorkers p, fun d hd => ?_⟩
  rw [expire, waiting_expireWaiting, List.mem_filter] at hd
  have hlt : p.expireWorkers.clock < d.deadline := by simpa using hd.2
  exact hlt

theorem InTime.stop (h : p.InTime) (i : Nat) : (p.stop i).InTime := by
  unfold Pool.stop
  split
  next => exact h
  next w hw =>
    split
    next =>
      have hdie : (p.die i w).InTime := InTime.setSame h hw rfl
      exact (InTime.proceed fun j _ => hdie j).settle
    next => exact h.setSame hw rfl

theorem InTime.foldl_stop (h : p.InTime) (is : List Nat) :
    (is.foldl Pool.stop p).InTime :=
  List.foldlRecOn is Pool.stop h fun _ hq i _ => hq.stop i

theorem InTime.handle (h : p.InTime) (i : Nat) (c : Call) : (p.handle i c).InTime := by
  unfold Pool.handle
  split
  next => exact h
  next w hw =>
    split
    · exact h
    · split
      · exact (h.start _ _).settle
      · exact h.setSame hw rfl

theorem InTime.tryHandle (h : p.InTime) (i : Nat) (c : Call) : (p.tryHandle i c).InTime := by
  unfold Pool.tryHandle
  split
  · exact h
  · split
    · exact (h.start _ _).settle
    · exact h

theorem InTime.cancel (h : p.InTime) (name : String) : (p.cancel name).2.InTime := by
  unfold Pool.cancel
  split
  next i hi =>
    obtain ⟨hlt, -⟩ := List.findIdx?_eq_some_iff_getElem.1 hi
    exact (h.release (List.getElem?_eq_getElem hlt)).settle
  next =>
    split
    next i hi =>
      obtain ⟨hlt, -⟩ := List.findIdx?_eq_some_iff_getElem.1 hi
      have hw := List.getElem?_eq_getElem hlt
      exact inTime_of_set (fun j _ => h j) rfl (modify_eq_set_of_getElem? hw _)
        fun inv hinv => h i _ hw inv hinv
    next => split <;> exact h

theorem InTime.stdout (h : p.InTime) (i : Nat) (data : List UInt8) :
    (p.stdout i data).2.InTime := by
  unfold Pool.stdout
  split
  next => exact h
  next w hw =>
    split
    · have hset := h.setSame (v := { w with
        outWaiting := (Output.feed w.outWaiting data).2
        unread := w.unread ++ (Output.feed w.outWaiting data).1 }) hw rfl
      exact (InTime.proceed fun j _ => hset j).settle
    · exact h

theorem InTime.stderr (h : p.InTime) (i : Nat) (data : List UInt8) :
    (p.stderr i data).2.InTime := by
  unfold Pool.stderr
  split
  next => exact h
  next w hw =>
    split
    · exact h.setSame hw rfl
    · exact h

theorem InTime.closeStdin (h : p.InTime) (i : Nat) : (p.closeStdin i).InTime := by
  unfold Pool.closeStdin
  cases hw : p.workers[i]? with
  | none =>
    rw [List.modify_eq_self (List.getElem?_eq_none_iff.1 hw)]
    exact h
  | some w =>
    exact inTime_of_set (fun j _ => h j) rfl (modify_eq_set_of_getElem? hw _)
      fun inv hinv => h i _ hw inv hinv

theorem InTime.exit (h : p.InTime) (i : Nat) : (p.exit i).2.InTime := by
  unfold Pool.exit
  split
  next => exact h
  next w hw =>
    split
    · have hdie : (p.die i w).InTime := h.setSame hw rfl
      have hnote : ((p.die i w).note (.exitedUnexpectedly i)).InTime := hdie
      dsimp only
      split
      · exact (InTime.proceed fun j _ => hdie j).settle
      · exact (InTime.proceed fun j _ => hnote j).settle
    · exact h

/-- However much time passes, nobody is overdue. -/
theorem Punctual.advance (h : p.Punctual) (n : Nat) : (p.advance n).Punctual := by
  induction n using Nat.strongRecOn generalizing p with
  | _ n ih =>
    by_cases hn : n ≤ p.quiet n
    · rw [advance_of_le_quiet hn]
      obtain ⟨-, hquiet⟩ := le_quiet_iff.1 hn
      refine ⟨fun j w hw inv hinv => ?_, fun d hd => ?_⟩
      · have hlt := h.inTime j w hw inv hinv
        have hdue : w.running?.map (fun inv => inv.started + p.settings.workerTimeout) =
            some (inv.started + p.settings.workerTimeout) := by
          rw [running?_eq_some_iff.2 hinv]
          rfl
        have := hquiet _ (List.mem_append_left _
          (List.mem_filterMap.2 ⟨w, List.mem_of_getElem? hw, hdue⟩))
        dsimp only
        omega
      · have hlt := h.hopeful d hd
        have := hquiet d.deadline (List.mem_append_right _ (List.mem_map_of_mem hd))
        dsimp only
        omega
    · rw [advance_of_quiet_lt (Nat.not_le.1 hn)]
      obtain ⟨hin, hhope⟩ := inTime_expire { p with clock := p.clock + p.quiet n + 1 }
      exact ih _ (by omega) ⟨hin, hhope⟩

/-- Every action leaves no invocation that has lasted too long. -/
theorem InTime.step (h : p.InTime) {a : Action} (ha : ∀ n, a ≠ .advance n) :
    (p.step a).2.InTime := by
  have h : p.unseen.InTime := h
  cases a with
  | dispatch c => exact InTime.settle (p := { p.unseen with ready := _ }) h
  | handle i c => exact h.handle i c
  | tryHandle i c => exact h.tryHandle i c
  | cancel name => exact h.cancel name
  | stdout i data => exact h.stdout i data
  | stderr i data => exact h.stderr i data
  | closeStdin i => exact h.closeStdin i
  | exit i => exact h.exit i
  | advance n => exact absurd rfl (ha n)
  | terminate i =>
    rw [step_terminate]
    exact h.stop i
  | teardown =>
    rw [step_teardown]
    exact InTime.settle (p := roused _) (h.foldl_stop (List.range p.unseen.workers.length))

end

/-! ### Calls wait in time -/

section

variable {p q : Pool}

/-- If nobody begins to wait and no time passes, every call that waits has time left. -/
theorem Hopeful.mono (h : p.Hopeful) (hscene : q.scene = p.scene)
    (hwait : ∀ d ∈ q.waiting, d ∈ p.waiting) : q.Hopeful := fun d hd => by
  rw [clock_of_scene hscene]
  exact h d (hwait d hd)

theorem Hopeful.finish {i : Nat} {w : Worker} (h : p.Hopeful) (hw : p.workers[i]? = some w)
    (c : Call) (o : Outcome) : (p.finish i c o).Hopeful := by
  refine h.mono (scene_finish p i c o) fun d hd => ?_
  rw [waiting_finish hw] at hd
  exact List.mem_of_mem_tail hd

/-- A call begins to wait only if it has time left. -/
theorem Hopeful.move (hm : Move p q) (hclock : q.clock = p.clock) (h : p.Hopeful) :
    q.Hopeful := by
  cases hm with
  | stirs hs =>
    cases hs with
    | begins hc hw hr => exact h.mono hc.scene fun d hd => hc.waiting ▸ hd
    | @fails q i c w hc hw hr =>
      have hq : q.Hopeful := h.mono hc.scene fun d hd => hc.waiting ▸ hd
      exact Hopeful.finish (p := q.note _) hq hw _ _
    | waits hr hf hd ht =>
      intro e he
      rcases List.mem_append.1 he with he | he
      · exact h e he
      · rw [List.mem_singleton.1 he]
        exact ht
    | completes hw hinv hd =>
      refine Hopeful.finish (p := note _ _) ?_ (getElem?_setWorker hw _) _ _
      exact h
    | closes hw hinv ha hu =>
      refine Hopeful.finish ?_ (getElem?_setWorker hw _) _ _
      exact h
    | expires hw hinv ht => exact h.finish hw _ _
    | givesUp =>
      refine h.mono rfl fun d hd => ?_
      rw [waiting_expireWaiting] at hd
      exact (List.mem_filter.1 hd).1
    | @ticks n hn =>
      obtain rfl : n = 0 := by
        dsimp only at hclock
        omega
      exact h
    | _ => exact h
  | wakesAll => exact fun d hd => absurd hd List.not_mem_nil
  | _ => exact h

theorem Hopeful.does {a : Action} (h : p.Hopeful) (hd : Does p a q) : q.Hopeful := by
  refine h.mono hd.scene fun d hmem => ?_
  cases hd with
  | enters _ _ _ he => cases he <;> exact hmem
  | drops _ _ _ hd =>
    cases hd with
    | running hw hinv hn =>
      rw [waiting_release hw] at hmem
      exact List.mem_of_mem_tail hmem
    | queued hw hq => exact hmem
    | waiting hw => exact (List.mem_filter.1 hmem).1
  | prints _ _ _ _ _ hp => cases hp; exact hmem
  | other _ _ _ => exact hmem

/-- After every action nobody is overdue. -/
theorem Punctual.step (h : p.Punctual) (hr : p.ready = []) (a : Action) :
    (p.step a).2.Punctual := by
  by_cases ha : ∃ n, a = .advance n
  · obtain ⟨n, rfl⟩ := ha
    exact Punctual.advance (p := p.unseen) ⟨h.inTime, h.hopeful⟩ n
  · have ha : ∀ n, a ≠ .advance n := fun n hn => ha ⟨n, hn⟩
    have hzero : a.takes = 0 := by
      cases a with
      | advance n => exact absurd rfl (ha n)
      | _ => rfl
    have hscene := scene_step p a
    rw [hzero, Nat.add_zero] at hscene
    obtain ⟨⟨q, hd, hm, -⟩, -⟩ := step_cases p a hr
    exact ⟨h.inTime.step ha, Moves.still (fun _ _ hm hc => Hopeful.move hm hc) hm
      (clock_of_scene (hscene.trans hd.scene.symm)) (h.hopeful.does hd)⟩

end

/-- After every run no invocation has lasted as long as the worker timeout, and no call waits that
has waited as long as the dispatch timeout. -/
theorem punctual_after (s : PoolSettings) (n : Nat) (as : List Action) :
    ((launched s n).after as).Punctual := by
  refine after_induction (motive := fun _ p => p.Punctual) ?_
    (fun as a h => h.step (ready_after rfl as) a) as
  refine ⟨fun i w hw inv hinv => ?_, fun d hd => absurd hd List.not_mem_nil⟩
  rw [launched_worker (List.mem_of_getElem? hw)] at hinv
  cases hinv

end Pool

end FunctionHost
