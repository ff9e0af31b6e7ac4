import FunctionHost.Proofs.Pool.Stranded
/-!
# Actions that end a process

`exit`, `terminate` and `teardown` end the processes they are meant for, and no others
(`alive_step`). What follows from the death of a process begins nothing: the calls on its worker
fail, and a call that is woken finds no worker free, because it would not have waited otherwise
(`Hushed`). Main statement: `unwritten_of_kills`, an action that can end a process writes nothing to
any worker.
-/

namespace FunctionHost

/-- The action ends the process of worker `i`. -/
def Action.ends (i : Nat) : Action → Bool
  | .exit j => j == i
  | .terminate j => j == i
  | .teardown => true
  | _ => false

namespace Pool

section

variable {p q : Pool} {i : Nat} {w v : Worker} {t : Turn} {ts : List Turn}

/-! ### Whose process ends -/

theorem lives_set (hws : q.workers = p.workers.set i v) (hv : v.alive = false) :
    q.lives = p.lives.set i false := by
  unfold lives
  rw [hws, List.map_set, hv]

/-- Where there is no process that is alive, nobody is left to die. -/
theorem lives_set_false (h : ∀ w, p.workers[i]? = some w → w.alive = false) :
    p.lives.set i false = p.lives := by
  unfold lives
  cases hw : p.workers[i]? with
  | none =>
    refine List.set_eq_of_length_le ?_
    rw [List.length_map]
    exact List.getElem?_eq_none_iff.1 hw
  | some w =>
    have hset : (p.workers.map (·.alive)).set i w.alive = p.workers.map (·.alive) := by
      obtain ⟨hi, rfl⟩ := List.getElem?_eq_some_iff.1 hw
      rw [← List.map_set, List.set_getElem_self]
    rwa [h w hw] at hset

theorem lives_proceed_settle (p : Pool) (i : Nat) : (p.proceed i).settle.lives = p.lives :=
  lives_of_stirs ((proceed_stirs p i).trans (settle_stirs _))

theorem lives_exit (p : Pool) (i : Nat) : (p.exit i).2.lives = p.lives.set i false := by
  unfold Pool.exit
  split
  next hw => exact (lives_set_false fun w hw' => by simp [hw] at hw').symm
  next w hw =>
    split
    next =>
      refine (lives_proceed_settle _ i).trans ?_
      split <;> exact lives_set rfl rfl
    next ha =>
      refine (lives_set_false fun w' hw' => ?_).symm
      rw [← Option.some.inj (hw.symm.trans hw')]
      exact Bool.eq_false_iff.2 ha

theorem lives_stop (p : Pool) (i : Nat) : (p.stop i).lives = p.lives.set i false := by
  unfold Pool.stop
  split
  next hw => exact (lives_set_false fun w hw' => by simp [hw] at hw').symm
  next w hw =>
    split
    next => exact (lives_proceed_settle _ i).trans (lives_set rfl rfl)
    next ha => exact lives_set rfl (Bool.eq_false_iff.2 ha)

theorem lives_foldl_stop (is : List Nat) (j : Nat) : (is.foldl stop p).lives[j]? =
    p.lives[j]?.map fun b => b && !is.contains j := by
  induction is generalizing p with
  | nil => simp
  | cons i is ih =>
    rw [List.foldl_cons, ih, lives_stop, List.getElem?_set]
    by_cases hij : i = j
    · subst hij
      by_cases hi : i < p.lives.length
      · simp [hi]
      · simp [hi]
    · simp [hij, Ne.symm hij]

/-- The processes that are alive after an action are those that were and that it does not end. -/
theorem alive_step (hr : p.ready = []) (a : Action) (j : Nat) :
    (p.step a).2.lives[j]? = p.lives[j]?.map fun b => b && !a.ends j := by
  have hset : ∀ i, (p.lives.set i false)[j]? = p.lives[j]?.map fun b => b && !(i == j) := by
    intro i
    rw [List.getElem?_set]
    by_cases hij : i = j
    · subst hij
      by_cases hi : i < p.lives.length <;> simp [hi]
    · have hne : (i == j) = false := by simpa using hij
      simp [hij, hne]
  cases a with
  | exit i => exact (congrArg (·[j]?) (lives_exit p.unseen i)).trans (hset i)
  | terminate i =>
    rw [step_terminate]
    exact (congrArg (·[j]?) (lives_stop p.unseen i)).trans (hset i)
  | teardown =>
    rw [step_teardown]
    have hsettle := lives_of_stirs
      (settle_stirs (roused ((List.range p.unseen.workers.length).foldl stop p.unseen)))
    refine (congrArg (·[j]?) hsettle).trans ((lives_foldl_stop _ j).trans ?_)
    by_cases hj : j < p.workers.length
    · simp [Action.ends, lives, unseen, hj]
    · simp [Action.ends, lives, unseen, hj]
  | _ =>
    rw [lives_step hr rfl]
    simp [Action.ends]

/-! ### A death begins nothing -/

/-- Nothing more has been written. -/
def Unwritten (p q : Pool) : Prop := ∀ k t, .wrote k t ∈ q.effects → .wrote k t ∈ p.effects

theorem Unwritten.refl (p : Pool) : Unwritten p p := fun _ _ h => h

theorem Unwritten.trans {r : Pool} (h : Unwritten p q) (h' : Unwritten q r) : Unwritten p r :=
  fun k t hm => h k t (h' k t hm)

/-- Only worker `i` has turns, which is dead, and a call that looks for a worker finds none, or
nobody looks. -/
structure Hushed (i : Nat) (p : Pool) : Prop where
  /-- The worker is dead. -/
  dead : ∀ w, p.workers[i]? = some w → w.terminated = true ∧ w.reading = false
  /-- Other workers have no turns. -/
  starts : ∀ j, .start j ∈ p.ready → j = i
  /-- No worker is free, or nobody is in the line. -/
  nobody : (∀ w ∈ p.workers, w.isFree = false) ∨ p.waiting = [] ∧ ∀ d, .look d ∉ p.ready

theorem Hushed.finish (h : Hushed i p) (hw : p.workers[i]? = some w) (c : Call) (o : Outcome) :
    Hushed i (p.finish i c o) := by
  have hdead := h.dead w hw
  refine ⟨fun v hv => dead_finish hw hdead c o hv, fun j hj => ?_, ?_⟩
  · exact (start_of_finish hw hj).elim (h.starts j) id
  · rw [workers_finish hw, waiting_finish hw, ready_finish hw]
    refine h.nobody.imp (fun hfree => ?_) fun ⟨hwait, hlook⟩ => ?_
    · exact forall_mem_set hfree
        (isFree_of_terminated (by rw [w.terminated_passedOn, hdead.1])) i
    · rw [hwait]
      refine ⟨rfl, fun d hd => ?_⟩
      rcases List.mem_append.1 hd with hd | hd
      · rcases List.mem_append.1 hd with hd | hd
        · exact hlook d hd
        · exact absurd hd (look_not_mem_grantTurns w i d)
      · cases hd

theorem unwritten_note {e : Effect} (h : ∀ k t, e ≠ .wrote k t) : Unwritten p (p.note e) := by
  intro k t hm
  rcases List.mem_append.1 hm with hm | hm
  · exact hm
  · exact absurd (List.mem_singleton.1 hm).symm (h k t)

theorem unwritten_finish (hw : p.workers[i]? = some w) (c : Call) (o : Outcome) :
    Unwritten p (p.finish i c o) := fun k t hm => by
  rw [effects_finish hw] at hm
  simpa using hm

/-- An invocation that reads writes nothing. -/
theorem unwritten_proceed (p : Pool) (i : Nat) : Unwritten p (p.proceed i) := by
  intro k t hm
  unfold proceed at hm
  split at hm
  next => exact hm
  next w hw =>
    split at hm
    next inv hinv =>
      dsimp only at hm
      have hnotes : (p.notes ((inv.decoder.run w.unread).complaints.map .complained)).workers[i]? =
          some w := hw
      split at hm
      · rw [effects_finish_notes hw] at hm
        simpa using hm
      · split at hm
        · rw [effects_finish_setWorker hnotes] at hm
          simpa using hm
        · split at hm
          · rw [effects_finish_setWorker hnotes] at hm
            simpa using hm
          · simpa using hm
    next => exact hm

theorem Hushed.note (h : Hushed i p) (e : Effect) : Hushed i (p.note e) :=
  ⟨h.dead, h.starts, h.nobody⟩

/-- A call that begins on the dead worker fails. -/
theorem Hushed.start (h : Hushed i p) (c : Call) :
    Hushed i (p.start i c) ∧ Unwritten p (p.start i c) := by
  unfold Pool.start
  split
  next => exact ⟨h, .refl p⟩
  next w hw =>
    rw [if_neg (by simp [(h.dead w hw).2])]
    have hw' : (p.note (.obtained i c)).workers[i]? = some w := hw
    exact ⟨(h.note _).finish hw' _ _, (unwritten_note (by simp)).trans (unwritten_finish hw' _ _)⟩

theorem Hushed.turn (h : Hushed i p) (hr : p.ready = t :: ts) :
    Hushed i (({ p with ready := ts } : Pool).turn t) ∧
      Unwritten p (({ p with ready := ts } : Pool).turn t) := by
  have hmem : ∀ u ∈ ts, u ∈ p.ready := fun u hu => by
    rw [hr]
    exact List.mem_cons_of_mem _ hu
  have hrest : Hushed i { p with ready := ts } :=
    ⟨h.dead, fun j hj => h.starts j (hmem _ hj),
      h.nobody.imp_right fun ⟨hwait, hlook⟩ => ⟨hwait, fun d hd => hlook d (hmem _ hd)⟩⟩
  cases t with
  | start j =>
    obtain rfl : j = i := h.starts j (by rw [hr]; exact List.mem_cons_self)
    simp only [Pool.turn]
    split
    next c _ => exact hrest.start c
    next => exact ⟨hrest, fun _ _ hm => hm⟩
  | look d =>
    have htaken : ∀ w ∈ p.workers, w.isFree = false :=
      h.nobody.resolve_right fun hn => hn.2 d (by rw [hr]; exact List.mem_cons_self)
    have hfree : ({ p with ready := ts } : Pool).freeWorker? = none :=
      freeWorker?_eq_none_iff.2 htaken
    simp only [Pool.turn, Pool.look, hfree]
    split
    · exact ⟨hrest.note _, unwritten_note (p := { p with ready := ts }) (by simp)⟩
    · split
      · refine ⟨Hushed.note (p := { p with ready := ts, permit := false })
          ⟨hrest.dead, hrest.starts, hrest.nobody⟩ _, ?_⟩
        exact unwritten_note (p := { p with ready := ts, permit := false }) (by simp)
      · exact ⟨⟨hrest.dead, hrest.starts, .inl htaken⟩, fun _ _ hm => hm⟩

theorem Hushed.settle (h : Hushed i p) : Unwritten p p.settle := by
  induction p using settle.induct with
  | case1 p hr => rw [settle_of_nil hr]; exact .refl p
  | case2 p t ts hr ih =>
    rw [settle_of_cons hr]
    obtain ⟨hturn, hun⟩ := h.turn hr
    exact hun.trans (ih hturn)

theorem Hushed.proceed (h : Hushed i p) (hw : p.workers[i]? = some w) (ha : w.alive = false) :
    Hushed i (p.proceed i) := by
  by_cases hold : ∃ inv, w.hold = .running inv
  · obtain ⟨inv, hinv⟩ := hold
    obtain ⟨u, es, o, -, -, hreading, hterm, hp⟩ := proceed_of_dead hw ha hinv
    obtain ⟨ht, hr⟩ := h.dead w hw
    have hget : ((p.setWorker i u).notes es).workers[i]? = some u := getElem?_setWorker hw u
    have hset : Hushed i ((p.setWorker i u).notes es) := by
      refine ⟨fun x hx => ?_, h.starts, h.nobody.imp_left fun hfree => ?_⟩
      · rw [← Option.some.inj (hget.symm.trans hx), hreading]
        exact ⟨hterm ht, hr⟩
      · exact forall_mem_set hfree (isFree_of_terminated (hterm ht)) i
    rw [hp]
    exact hset.finish hget _ _
  · rw [proceed_of_not_running hw fun inv hinv => hold ⟨inv, hinv⟩]
    exact h

theorem Heard.moves (h : p.Heard) (hm : Moves p q) : q.Heard := by
  induction hm with
  | refl => exact h
  | tail _ hm ih => exact ih.move hm

theorem unwritten_die (i : Nat) (w : Worker) : Unwritten p (p.die i w) := fun k t hm => by
  simpa [die, said] using hm

/-- What follows from a death writes nothing. -/
theorem Hushed.die (hh : p.Heard) (hr : p.ready = []) (hw : p.workers[i]? = some w) :
    Hushed i (p.die i w) := by
  refine ⟨fun v hv => ?_, fun j hj => ?_, ?_⟩
  · rw [← Option.some.inj ((getElem?_setWorker hw _).symm.trans hv)]
    exact ⟨rfl, rfl⟩
  · rw [show (p.die i w).ready = [] from hr] at hj
    cases hj
  · by_cases hwait : p.waiting = []
    · refine .inr ⟨hwait, fun d hd => ?_⟩
      rw [show (p.die i w).ready = [] from hr] at hd
      cases hd
    · exact .inl (forall_mem_set (isFree_of_waiting hh hr hwait) (isFree_of_terminated rfl) i)

/-- What follows when a process has died writes nothing. -/
theorem Hushed.died (h : Hushed i p) (hw : p.workers[i]? = some w) (ha : w.alive = false) :
    Unwritten p (p.proceed i).settle :=
  (unwritten_proceed p i).trans (h.proceed hw ha).settle

theorem unwritten_exit (hh : p.Heard) (hr : p.ready = []) (i : Nat) :
    Unwritten p (p.exit i).2 := by
  unfold Pool.exit
  split
  next => exact .refl p
  next w hw =>
    split
    next =>
      have hdie := Hushed.die hh hr hw
      have hget := getElem?_setWorker hw { w with
        alive := false, reading := false, terminated := true, outWaiting := [], errWaiting := []
        unread := w.unread ++ Output.last w.outWaiting }
      dsimp only
      split
      · exact (unwritten_die i w).trans (hdie.died hget rfl)
      · exact (unwritten_die i w).trans ((unwritten_note (by simp)).trans
          ((hdie.note _).died hget rfl))
    next => exact .refl p

theorem unwritten_stop (hh : p.Heard) (hr : p.ready = []) (i : Nat) :
    Unwritten p (p.stop i) := by
  unfold Pool.stop
  split
  next => exact .refl p
  next w hw =>
    split
    next =>
      exact (unwritten_die i w).trans ((Hushed.die hh hr hw).died (getElem?_setWorker hw _) rfl)
    next => exact fun _ _ hm => hm

theorem unwritten_foldl_stop (is : List Nat) (hh : p.Heard) (hr : p.ready = []) :
    Unwritten p (is.foldl stop p) := by
  induction is generalizing p with
  | nil => exact .refl p
  | cons i is ih =>
    exact (unwritten_stop hh hr i).trans
      (ih (hh.moves (stop_moves p i)) (ready_stop i hr))

/-- If every worker is dead, nothing is written while the pool settles. -/
theorem unwritten_settle_of_dead (hd : p.Dead) (hstarts : ∀ j, .start j ∉ p.ready) :
    Unwritten p p.settle := by
  -- no worker has a turn, so the dead worker may be one that does not exist
  have hushed : Hushed p.workers.length p :=
    ⟨fun w hw => by simp at hw, fun j hj => absurd hj (hstarts j),
      .inl fun w hw => isFree_of_terminated (hd w hw)⟩
  exact hushed.settle

/-- After all workers were terminated, the pool is dead. -/
theorem dead_foldl_stop (hp : p.Regular) :
    ((List.range p.workers.length).foldl stop p).Dead := by
  rw [dead_iff_lives (hp.foldl_stop _).sound]
  intro b hb
  obtain ⟨j, hj⟩ := List.mem_iff_getElem?.1 hb
  rw [lives_foldl_stop] at hj
  by_cases hlt : j < p.workers.length
  · simpa [lives, hlt] using hj.symm
  · simp [lives, hlt] at hj

theorem ready_foldl_stop (is : List Nat) (hr : p.ready = []) :
    (is.foldl stop p).ready = [] :=
  List.foldlRecOn (motive := fun q : Pool => q.ready = []) is stop hr
    fun _ hq i _ => ready_stop i hq

theorem start_not_mem_roused (hr : p.ready = []) (j : Nat) : .start j ∉ p.roused.ready := by
  have hready : p.roused.ready = p.ready ++ p.waiting.map .look := rfl
  simp [hready, hr]

theorem unwritten_stopAll (hp : p.Regular) (hh : p.Heard) (hr : p.ready = []) :
    Unwritten p p.stopAll := by
  set q := (List.range p.workers.length).foldl stop p with hq
  have hroused : Unwritten q q.roused := fun _ _ hm => hm
  have hsettle : Unwritten q.roused q.roused.settle :=
    unwritten_settle_of_dead (dead_foldl_stop hp)
      (start_not_mem_roused (ready_foldl_stop _ hr))
  exact (unwritten_foldl_stop _ hh hr).trans (hroused.trans hsettle)

/-- An action that can end a process writes nothing to any worker. -/
theorem unwritten_of_kills (hp : p.Regular) (hh : p.Heard) (hr : p.ready = []) {a : Action}
    (hk : a.kills = true) (k : Nat) (t : String) : .wrote k t ∉ (p.step a).2.effects := by
  have hun : Unwritten p.unseen (p.step a).2 := by
    cases a with
    | exit i => exact unwritten_exit (p := p.unseen) hh hr i
    | terminate i =>
      rw [step_terminate]
      exact unwritten_stop (p := p.unseen) hh hr i
    | teardown =>
      rw [step_teardown]
      exact unwritten_stopAll hp.unseen hh hr
    | _ => cases hk
  exact fun hm => List.not_mem_nil (hun k t hm)

end

end Pool

end FunctionHost
