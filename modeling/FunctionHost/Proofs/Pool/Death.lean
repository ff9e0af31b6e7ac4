import FunctionHost.Proofs.Pool.Shape
/-!
# Workers that die

Only `exit`, `terminate` and `teardown` end a process (`lives_step`), and no invocation outlives its
process (`lively_after`): when a process dies the invocation on its worker ends at once
(`proceed_of_dead`). A pool whose workers are all terminated stays so, and no call begins to wait
for it (`Deserted.step`).
-/

namespace FunctionHost

/-- A terminated worker that has no calls. -/
structure Worker.Retired (w : Worker) : Prop where
  /-- It is terminated. -/
  terminated : w.terminated = true
  /-- Its process is dead. -/
  alive : w.alive = false
  /-- Nobody has it. -/
  hold : w.hold = .free
  /-- Nobody waits for it. -/
  queue : w.queue = []

namespace Pool

open Relation

/-- Which processes are alive. -/
def lives (p : Pool) : List Bool := p.workers.map (·.alive)

/-- Every invocation in progress has a process that is alive. -/
def Lively (p : Pool) : Prop :=
  ∀ w ∈ p.workers, ∀ inv, w.hold = .running inv → w.alive = true

/-- Every worker is terminated, and no call waits. -/
structure Deserted (p : Pool) : Prop where
  /-- Every worker is terminated. -/
  dead : p.Dead
  /-- No call waits. -/
  waiting : p.waiting = []

section

variable {p q : Pool} {i : Nat} {w v : Worker}

/-! ### Who ends a process -/

theorem dead_iff_lives (h : p.Sound) : p.Dead ↔ ∀ b ∈ p.lives, b = false := by
  unfold lives Dead
  rw [List.forall_mem_map]
  constructor
  · intro hd w hw
    have := (h w hw).terminated
    rw [hd w hw] at this
    simpa using this.symm
  · intro hl w hw
    rw [(h w hw).terminated, hl w hw]
    rfl

theorem lives_eq_of_set (hw : p.workers[i]? = some w) (hws : q.workers = p.workers.set i v)
    (hv : v.alive = w.alive) : q.lives = p.lives := by
  obtain ⟨hi, rfl⟩ := List.getElem?_eq_some_iff.1 hw
  have hself : (p.workers.map (·.alive)).set i (p.workers[i].alive) = p.workers.map (·.alive) := by
    rw [← List.map_set, List.set_getElem_self]
  unfold lives
  rw [hws, List.map_set, hv, hself]

/-- What happens by itself ends no process. -/
theorem Stir.lives (hm : Stir p q) : q.lives = p.lives := by
  cases hm with
  | @begins q i c w hc hw hr =>
    rw [hc.workers] at hw
    exact lives_eq_of_set hw (hc.workers_seize w) rfl
  | @fails q i c w hc hw hr =>
    have hws := hc.workers_fail hw (.failed (.write i))
    rw [hc.workers] at hw
    exact lives_eq_of_set hw hws w.alive_passedOn
  | reads hw hinv hd => exact lives_eq_of_set hw rfl rfl
  | completes hw hinv hd =>
    exact lives_eq_of_set hw (workers_finish_notes hw _ _ _ _ _) (Worker.alive_passedOn _)
  | closes hw hinv ha hu =>
    exact lives_eq_of_set hw (workers_finish_setWorker hw _ _ _) (Worker.alive_passedOn _)
  | expires hw hinv ht => exact lives_eq_of_set hw (workers_finish hw _ _) (Worker.alive_passedOn _)
  | errs _ hw => exact lives_eq_of_set hw rfl rfl
  | deafens hw => exact lives_eq_of_set hw rfl rfl
  | _ => rfl

theorem lives_of_stirs (h : Stirs p q) : q.lives = p.lives := by
  induction h with
  | refl => rfl
  | tail _ hm ih => exact hm.lives.trans ih

theorem Does.lives {a : Action} (hd : Does p a q) : q.lives = p.lives := by
  cases hd with
  | enters _ _ _ he =>
    cases he with
    | granted hw _ => exact lives_eq_of_set (p := p) hw rfl rfl
    | queued hw _ _ => exact lives_eq_of_set (p := p) hw rfl rfl
    | _ => rfl
  | drops _ _ _ hd =>
    cases hd with
    | running hw _ _ =>
      exact lives_eq_of_set (p := p) hw (workers_release hw) (Worker.alive_passedOn _)
    | queued hw _ => exact lives_eq_of_set (p := p) hw rfl rfl
    | waiting _ => rfl
  | prints _ _ _ _ _ hp =>
    cases hp with
    | feeds hw _ => exact lives_eq_of_set (p := p) hw rfl rfl
  | other _ _ _ => rfl

/-- Other actions than `exit`, `terminate` and `teardown` end no process. -/
theorem lives_step (hr : p.ready = []) {a : Action} (ha : a.kills = false) :
    (p.step a).2.lives = p.lives := by
  obtain ⟨⟨q, hd, -, hs⟩, -⟩ := step_cases p a hr
  exact (lives_of_stirs (hs ha)).trans hd.lives

/-! ### What a death ends -/

/-- An invocation whose process is dead ends when it reads next. -/
theorem proceed_of_dead {inv : Invocation} (hw : p.workers[i]? = some w) (ha : w.alive = false)
    (hinv : w.hold = .running inv) :
    ∃ v es o, v.hold = .running inv ∧ v.queue = w.queue ∧ v.reading = w.reading ∧
      (w.terminated = true → v.terminated = true) ∧
      p.proceed i = ((p.setWorker i v).notes es).finish i inv.call o := by
  unfold proceed
  simp only [hw, hinv]
  set r := inv.decoder.run w.unread
  by_cases hd : r.done = true
  · rw [if_pos hd]
    exact ⟨{ w with unread := r.rest }, r.complaints.map .complained ++
      [.completed i inv.call r.decoder.reply], .reply r.decoder.reply, hinv, rfl, rfl, id,
      by simp [notes, note, setWorker, hinv]⟩
  · rw [if_neg hd, if_pos (by simp [ha])]
    exact ⟨{ w with unread := r.rest, terminated := true }, r.complaints.map .complained,
      .failed (.closed i), hinv, rfl, rfl, fun _ => rfl, by simp [notes, setWorker, hinv]⟩

/-- Nothing is left in progress on a process that has died. -/
theorem Lively.proceed (hw : p.workers[i]? = some w) (ha : w.alive = false)
    (h : ∀ j v inv, j ≠ i → p.workers[j]? = some v → v.hold = .running inv → v.alive = true) :
    (p.proceed i).Lively := by
  intro v hv inv hinv
  obtain ⟨j, hj⟩ := List.mem_iff_getElem?.1 hv
  by_cases hold : ∃ inv, w.hold = .running inv
  · obtain ⟨inv', hinv'⟩ := hold
    obtain ⟨u, es, o, -, -, -, -, hp⟩ := proceed_of_dead hw ha hinv'
    have hget : ((p.setWorker i u).notes es).workers[i]? = some u := getElem?_setWorker hw u
    have hws : (p.proceed i).workers = p.workers.set i u.passedOn := by
      rw [hp, workers_finish hget, workers_notes, workers_setWorker, List.set_set]
    obtain ⟨rfl, rfl⟩ | ⟨hji, hj⟩ := worker_of_set hws hj
    · exact absurd hinv (u.hold_passedOn_ne_running inv)
    · exact h j v inv hji hj hinv
  · rw [proceed_of_not_running hw fun inv hinv => hold ⟨inv, hinv⟩] at hj
    by_cases hji : j = i
    · subst hji
      rw [Option.some.inj (hj.symm.trans hw)] at hinv
      exact absurd ⟨inv, hinv⟩ hold
    · exact h j v inv hji hj hinv

/-! ### No invocation outlives its process -/

theorem Lively.set (h : p.Lively) (hws : q.workers = p.workers.set i v)
    (hv : ∀ inv, v.hold = .running inv → v.alive = true) : q.Lively := by
  unfold Lively
  rw [hws]
  exact forall_mem_set h hv i

/-- A changed worker with the same hold and process. -/
theorem Lively.setSame (h : p.Lively) (hw : p.workers[i]? = some w)
    (hws : q.workers = p.workers.set i v) (hhold : v.hold = w.hold) (ha : v.alive = w.alive) :
    q.Lively := by
  refine h.set hws fun inv hinv => ?_
  rw [ha]
  exact h w (List.mem_of_getElem? hw) inv (hhold.symm.trans hinv)

theorem Lively.finish (h : p.Lively) (hw : p.workers[i]? = some w) (c : Call) (o : Outcome) :
    (p.finish i c o).Lively :=
  h.set (workers_finish hw c o) fun inv hinv => absurd hinv (w.hold_passedOn_ne_running inv)

theorem Lively.stir (hs : p.Sound) (hm : Stir p q) (h : p.Lively) : q.Lively := by
  have keep : ∀ {i : Nat} {w : Worker}, p.workers[i]? = some w → ∀ inv, w.hold = .running inv →
      w.alive = true := fun hw => h _ (List.mem_of_getElem? hw)
  cases hm with
  | @begins q i c w hc hw hr =>
    have h : q.Lively := by
      unfold Lively
      rwa [hc.workers]
    rw [hc.workers] at hw
    refine h.set (workers_seize q i w c) fun inv _ => ?_
    cases ha : w.alive with
    | true => exact ha
    | false =>
      have := (hs.at hw).reading ha
      rw [hr] at this
      cases this
  | @fails q i c w hc hw hr =>
    have h : (q.note (.obtained i c)).Lively := by
      unfold Lively
      rwa [workers_note, hc.workers]
    exact h.finish hw _ _
  | @reads i w inv hw hinv hd =>
    have ha := keep hw inv hinv
    exact h.set rfl fun _ _ => ha
  | @completes i w inv hw hinv hd =>
    have ha := keep hw inv hinv
    refine Lively.finish (p := note _ _) ?_ (getElem?_setWorker hw _) _ _
    exact Lively.set (p := p) h rfl fun _ _ => ha
  | @closes i w inv hw hinv ha hu =>
    rw [keep hw inv hinv] at ha
    cases ha
  | expires hw hinv ht => exact h.finish hw _ _
  | errs _ hw => exact Lively.setSame h hw rfl rfl rfl
  | deafens hw => exact h.setSame hw rfl rfl rfl
  | _ => exact h

theorem Sound.moves (h : p.Sound) (hm : Moves p q) : q.Sound := by
  induction hm with
  | refl => exact h
  | tail _ hm ih => exact ih.move hm

theorem Sound.stirs (h : p.Sound) (hm : Stirs p q) : q.Sound := h.moves (moves_of_stirs hm)

theorem Lively.stirs (h : p.Lively) (hs : p.Sound) (hm : Stirs p q) : q.Lively := by
  induction hm with
  | refl => exact h
  | tail hms hm ih => exact ih.stir (hs.stirs hms) hm

/-- What follows a death leaves no invocation without its process. -/
theorem Lively.die (h : p.Lively) (hw : p.workers[i]? = some w)
    (hws : q.workers = p.workers.set i v) (ha : v.alive = false) (hs : q.Sound) :
    (q.proceed i).settle.Lively := by
  have hi := (List.getElem?_eq_some_iff.1 hw).1
  have hget : q.workers[i]? = some v := by rw [hws, List.getElem?_set_self hi]
  refine Lively.stirs ?_ (hs.stirs (proceed_stirs q i)) (settle_stirs _)
  refine Lively.proceed hget ha fun j u inv hj hu hinv => ?_
  rw [hws, List.getElem?_set_ne (Ne.symm hj)] at hu
  exact h u (List.mem_of_getElem? hu) inv hinv

theorem Sound.die (h : p.Sound) (hw : p.workers[i]? = some w) : (p.die i w).Sound :=
  h.setWorker ⟨(h.at hw).queue, rfl, fun _ => rfl⟩

theorem Lively.stop (hs : p.Sound) (h : p.Lively) (i : Nat) : (p.stop i).Lively := by
  unfold Pool.stop
  split
  next => exact h
  next w hw =>
    split
    next => exact h.die hw rfl rfl (hs.die hw)
    next => exact h.set rfl (h w (List.mem_of_getElem? hw))

/-- What is true of every pool from one death to the next: its workers are sound, grants have turns,
and no invocation is without its process. -/
structure Regular (p : Pool) : Prop where
  /-- Every worker is sound. -/
  sound : p.Sound
  /-- What was granted a worker has a turn. -/
  turns : p.HasTurns
  /-- What is in progress has a process. -/
  lively : p.Lively

theorem HasTurns.moves (h : p.HasTurns) (hm : Moves p q) : q.HasTurns := by
  induction hm with
  | refl => exact h
  | tail _ hm ih => exact ih.move hm

theorem HasTurns.stirs (h : p.HasTurns) (hm : Stirs p q) : q.HasTurns := h.moves (moves_of_stirs hm)

theorem Regular.unseen (h : p.Regular) : p.unseen.Regular := ⟨h.sound, h.turns, h.lively⟩

theorem Regular.stirs (h : p.Regular) (hm : Stirs p q) : q.Regular :=
  ⟨h.sound.stirs hm, h.turns.stirs hm, h.lively.stirs h.sound hm⟩

theorem Regular.stop (h : p.Regular) (i : Nat) : (p.stop i).Regular :=
  ⟨h.sound.moves (stop_moves p i), h.turns.moves (stop_moves p i),
    h.lively.stop h.sound i⟩

theorem Regular.foldl_stop (h : p.Regular) (is : List Nat) :
    (is.foldl Pool.stop p).Regular :=
  List.foldlRecOn is Pool.stop h fun _ hq i _ => hq.stop i

theorem Regular.roused (h : p.Regular) : p.roused.Regular :=
  ⟨h.sound.move .wakesAll, h.turns.move .wakesAll, h.lively⟩

theorem Lively.does {a : Action} (h : p.Lively) (hd : Does p a q) : q.Lively := by
  have h : p.unseen.Lively := h
  cases hd with
  | enters _ _ _ he =>
    cases he with
    | granted hw _ => exact h.set rfl fun inv hinv => by cases hinv
    | queued hw _ _ => exact h.setSame hw rfl rfl rfl
    | _ => exact h
  | drops _ _ _ hd =>
    cases hd with
    | @running i w _ hw _ _ =>
      exact h.set (workers_release hw) fun inv hinv => absurd hinv (w.hold_passedOn_ne_running inv)
    | queued hw _ => exact h.setSame hw rfl rfl rfl
    | waiting _ => exact h
  | prints _ _ _ _ _ hp =>
    cases hp with
    | feeds hw _ => exact h.setSame hw rfl rfl rfl
  | other _ _ _ => exact h

theorem Does.sound {a : Action} (h : p.Sound) (hd : Does p a q) : q.Sound := by
  have h : p.unseen.Sound := h
  cases hd with
  | enters _ _ _ he => exact h.change (.enters he)
  | drops _ _ _ hd => exact h.change (.drops hd)
  | prints _ _ _ _ _ hp => exact h.change (.prints hp)
  | other _ _ _ => exact h

/-- Every action keeps every invocation with a process that is alive. -/
theorem Lively.step (h : p.Regular) (hr : p.ready = []) (a : Action) : (p.step a).2.Lively := by
  by_cases hk : a.kills = false
  · obtain ⟨⟨q, hd, -, hst⟩, -⟩ := step_cases p a hr
    exact (h.lively.does hd).stirs (hd.sound h.sound) (hst hk)
  · have h := h.unseen
    cases a with
    | exit i =>
      show (p.unseen.exit i).2.Lively
      unfold Pool.exit
      split
      next => exact h.lively
      next w hw =>
        split
        next =>
          dsimp only
          split
          next => exact h.lively.die hw rfl rfl (h.sound.die hw)
          next => exact h.lively.die hw rfl rfl (Sound.die h.sound hw)
        next => exact h.lively
    | terminate i =>
      rw [step_terminate]
      exact h.lively.stop h.sound i
    | teardown =>
      rw [step_teardown]
      have hfold := h.foldl_stop (List.range p.unseen.workers.length)
      exact Lively.stirs (p := roused _) hfold.lively (hfold.sound.move .wakesAll)
        (settle_stirs _)
    | _ => exact absurd rfl hk

theorem lively_after (s : PoolSettings) (n : Nat) (as : List Action) :
    ((launched s n).after as).Lively := by
  refine after_induction (motive := fun _ p => p.Lively) ?_ (fun as a h => ?_) as
  · intro w hw inv hinv
    rw [launched_worker hw] at hinv
    cases hinv
  · exact Lively.step ⟨sound_after s n as, hasTurns_after s n as, h⟩ (ready_after rfl as) a

theorem regular_after (s : PoolSettings) (n : Nat) (as : List Action) :
    ((launched s n).after as).Regular :=
  ⟨sound_after s n as, hasTurns_after s n as, lively_after s n as⟩

/-- In a settled pool a terminated worker has no calls. -/
theorem Regular.retired (h : p.Regular) (hr : p.ready = []) (hw : p.workers[i]? = some w)
    (ht : w.terminated = true) : w.Retired := by
  have hmem := List.mem_of_getElem? hw
  have hdead : w.alive = false := by
    have := (h.sound w hmem).terminated
    rw [ht] at this
    simpa using this.symm
  have hfree : w.hold = .free := by
    by_contra hf
    obtain ⟨inv, hinv⟩ := running_of_not_free h.turns hr hmem hf
    rw [h.lively w hmem inv hinv] at hdead
    cases hdead
  exact ⟨ht, hdead, hfree, (h.sound w hmem).queue hfree⟩

/-! ### A pool whose workers are all terminated -/

theorem Dead.set (h : p.Dead) (hws : q.workers = p.workers.set i v) (hv : v.terminated = true) :
    q.Dead := by
  unfold Dead
  rw [hws]
  exact forall_mem_set h hv i

theorem Dead.stirs (h : p.Dead) (hs : p.Sound) (hm : Stirs p q) : q.Dead := by
  rw [dead_iff_lives (hs.stirs hm), lives_of_stirs hm]
  exact (dead_iff_lives hs).1 h

theorem dead_of_stirs (hs : p.Sound) (hm : Stirs p q) (h : q.Dead) : p.Dead := by
  rw [dead_iff_lives hs, ← lives_of_stirs hm]
  exact (dead_iff_lives (hs.stirs hm)).1 h

theorem Deserted.setWorker (h : p.Deserted) (hv : v.terminated = true) :
    (p.setWorker i v).Deserted := ⟨h.dead.set rfl hv, h.waiting⟩

theorem Deserted.release (h : p.Deserted) (hw : p.workers[i]? = some w) :
    (p.release i).Deserted := by
  refine ⟨h.dead.set (workers_release hw) ?_, ?_⟩
  · rw [Worker.terminated_passedOn, h.dead w (List.mem_of_getElem? hw)]
  · rw [waiting_release hw, h.waiting, List.tail_nil]

theorem Deserted.finish (h : p.Deserted) (hw : p.workers[i]? = some w) (c : Call) (o : Outcome) :
    (p.finish i c o).Deserted :=
  Deserted.release (p := p.note (.ended c o)) ⟨h.dead, h.waiting⟩ hw

theorem Comes.deserted {c : Call} (hc : Comes p i c q) (h : p.Deserted) : q.Deserted := by
  refine ⟨?_, hc.waiting.trans h.waiting⟩
  unfold Dead
  rw [hc.workers]
  exact h.dead

theorem Deserted.stir (hm : Stir p q) (h : p.Deserted) : q.Deserted := by
  have ended : ∀ {i : Nat} {w : Worker}, p.workers[i]? = some w → w.terminated = true :=
    fun hw => h.dead _ (List.mem_of_getElem? hw)
  cases hm with
  | @begins q i c w hc hw hr =>
    have hq := hc.deserted h
    exact ⟨hq.dead.set (workers_seize q i w c) (hq.dead w (List.mem_of_getElem? hw)), hq.waiting⟩
  | @fails q i c w hc hw hr =>
    have hq := hc.deserted h
    exact Deserted.finish (p := q.note _) ⟨hq.dead, hq.waiting⟩ hw _ _
  | waits _ _ hd _ => exact absurd h.dead hd
  | @reads i w inv hw hinv hd =>
    have ht := ended hw
    exact ⟨h.dead.set rfl ht, h.waiting⟩
  | @completes i w inv hw hinv hd =>
    have ht := ended hw
    refine Deserted.finish (p := note _ _) ?_ (getElem?_setWorker hw _) _ _
    exact ⟨Dead.set (p := p) h.dead rfl ht, h.waiting⟩
  | closes hw hinv ha hu => exact Deserted.finish (h.setWorker rfl) (getElem?_setWorker hw _) _ _
  | expires hw hinv ht => exact h.finish hw _ _
  | givesUp => exact ⟨h.dead, by simp [expireWaiting, notes, h.waiting]⟩
  | @errs i w data hw =>
    have ht := ended hw
    exact ⟨Dead.set (p := p) h.dead rfl ht, h.waiting⟩
  | @deafens i w hw =>
    have ht := ended hw
    exact h.setWorker ht
  | idles _ _ => exact ⟨h.dead, h.waiting⟩
  | turnsAway _ _ _ _ => exact ⟨h.dead, h.waiting⟩
  | ticks _ => exact ⟨h.dead, h.waiting⟩

theorem Deserted.change (hc : Change p q) (h : p.Deserted) : q.Deserted := by
  have ended : ∀ {i : Nat} {w : Worker}, p.workers[i]? = some w → w.terminated = true :=
    fun hw => h.dead _ (List.mem_of_getElem? hw)
  cases hc with
  | forgets => exact ⟨h.dead, h.waiting⟩
  | enters he =>
    cases he with
    | looks => exact ⟨h.dead, h.waiting⟩
    | @granted i w hw hf =>
      have ht := ended hw
      exact ⟨h.dead.set rfl ht, h.waiting⟩
    | queued hw ht hf =>
      rw [ended hw] at ht
      cases ht
    | rejected hw ho => exact ⟨h.dead, h.waiting⟩
  | drops hd =>
    cases hd with
    | running hw hinv hn => exact h.release hw
    | @queued i w hw hq =>
      have ht := ended hw
      exact h.setWorker ht
    | waiting hw => exact ⟨h.dead, by simp [h.waiting]⟩
  | prints hp =>
    cases hp with
    | @feeds w hw ha =>
      have ht := ended hw
      exact h.setWorker ht
  | moves hm =>
    cases hm with
    | stirs hs => exact h.stir hs
    | wakesAll => exact ⟨h.dead, rfl⟩
    | dies hw ha => exact ⟨Dead.set (p := p) h.dead rfl rfl, h.waiting⟩
    | reports => exact ⟨h.dead, h.waiting⟩
    | marks hw ha => exact h.setWorker rfl

/-- Once every worker is terminated and no call waits, no action changes this. -/
theorem Deserted.step (h : p.Deserted) (hr : p.ready = []) (a : Action) :
    (p.step a).2.Deserted := by
  have hc := step_changes p a hr
  generalize (p.step a).2 = q at hc
  induction hc with
  | refl => exact h
  | tail _ hc ih => exact ih.change hc

end

end Pool

end FunctionHost
