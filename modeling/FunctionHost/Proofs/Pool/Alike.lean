import FunctionHost.Proofs.Gateway.Deed
/-!
# A kept wake-up makes no difference

A wake-up that finds nobody waiting is kept, and wakes the next call that would wait: that call looks
for a worker once more, in the same pool, and finds none (`look_eq_rounds`). So two pools that differ
in nothing but a kept wake-up (`Alike`) stay so whatever happens to them.

Main statement: `sights_eq_of_alike`, whatever is done to such pools, also by serving requests, the
answers are the same, the same is seen to happen, and the workers and the waiting calls are the same.
-/

namespace FunctionHost.Pool

/-- The pools differ in nothing but a kept wake-up. -/
def Alike (p q : Pool) : Prop := ∃ b, q = { p with permit := b }

/-- A call looks for a free worker, round by round: instead of waiting it is woken at once by a
wake-up that was kept, and looks again. -/
def rounds (p : Pool) (d : Waiter) : Pool :=
  match p.freeWorker? with
  | some i => p.start i d.call
  | none =>
    if p.workers.all (·.terminated) then p.note (.ended d.call unavailable)
    else if _h : p.permit then ({ p with permit := false } : Pool).rounds d
    else if d.deadline ≤ p.clock then p.note (.ended d.call unavailable)
    else { p with waiting := p.waiting ++ [d] }
termination_by p.permit.toNat
decreasing_by simp [_h]

/-- A call that finds no worker free uses up a kept wake-up, unless no worker is left. -/
theorem look_of_permit {p : Pool} {d : Waiter} (hf : p.freeWorker? = none)
    (hlive : p.workers.all (·.terminated) = false) :
    p.look d = ({ p with permit := false } : Pool).look d := by
  have hf' : ({ p with permit := false } : Pool).freeWorker? = none := hf
  simp only [look, hf, hf', hlive, Bool.false_eq_true, if_false]

/-- A round without a kept wake-up is the last. -/
theorem look_eq_rounds_of_not_permit {p : Pool} (h : p.permit = false) (d : Waiter) :
    p.look d = p.rounds d := by
  have hp : ({ p with permit := false } : Pool) = p := by rw [← h]
  rw [rounds]
  cases hf : p.freeWorker? with
  | some i => simp only [look, hf]
  | none =>
    simp only [look, hf, h, Bool.false_eq_true, dite_false]
    split
    · rfl
    · split
      · exact congrArg (note · _) hp
      · rw [← h]

/-- Looking once is enough: a call that is woken at once looks again in the same pool, to the same
end. -/
theorem look_eq_rounds (p : Pool) (d : Waiter) : p.look d = p.rounds d := by
  cases hp : p.permit with
  | false => exact look_eq_rounds_of_not_permit hp d
  | true =>
    rw [rounds]
    cases hf : p.freeWorker? with
    | some i => simp only [look, hf]
    | none =>
      cases hlive : p.workers.all (·.terminated) with
      | true => simp only [look, hf, hlive]; rfl
      | false =>
        rw [look_of_permit hf hlive, look_eq_rounds_of_not_permit rfl]
        simp only [hp, Bool.false_eq_true, if_false, dite_true]

namespace Alike

variable {p q : Pool}

theorem refl (p : Pool) : Alike p p := ⟨p.permit, rfl⟩

theorem notes (h : Alike p q) (es : List Effect) : Alike (p.notes es) (q.notes es) := by
  obtain ⟨b, rfl⟩ := h
  exact ⟨b, rfl⟩

theorem note (h : Alike p q) (e : Effect) : Alike (p.note e) (q.note e) := h.notes [e]

theorem setWorker (h : Alike p q) (i : Nat) (w : Worker) :
    Alike (p.setWorker i w) (q.setWorker i w) := by
  obtain ⟨b, rfl⟩ := h
  exact ⟨b, rfl⟩

theorem workers (h : Alike p q) : q.workers = p.workers := by
  obtain ⟨b, rfl⟩ := h
  rfl

theorem waiting (h : Alike p q) : q.waiting = p.waiting := by
  obtain ⟨b, rfl⟩ := h
  rfl

theorem ready (h : Alike p q) : q.ready = p.ready := by
  obtain ⟨b, rfl⟩ := h
  rfl

theorem effects (h : Alike p q) : q.effects = p.effects := by
  obtain ⟨b, rfl⟩ := h
  rfl

theorem clock (h : Alike p q) : q.clock = p.clock := by
  obtain ⟨b, rfl⟩ := h
  rfl

theorem settings (h : Alike p q) : q.settings = p.settings := by
  obtain ⟨b, rfl⟩ := h
  rfl

theorem freeWorker? (h : Alike p q) : q.freeWorker? = p.freeWorker? := by
  rw [Pool.freeWorker?, h.workers, Pool.freeWorker?]

theorem unseen (h : Alike p q) : Alike p.unseen q.unseen := by
  obtain ⟨b, rfl⟩ := h
  exact ⟨b, rfl⟩

theorem wake (h : Alike p q) : Alike p.wake q.wake := by
  obtain ⟨b, rfl⟩ := h
  unfold Pool.wake
  dsimp only
  split
  · exact ⟨true, rfl⟩
  · exact ⟨b, rfl⟩

theorem release (h : Alike p q) (i : Nat) : Alike (p.release i) (q.release i) := by
  unfold Pool.release
  rw [h.workers]
  obtain ⟨b, rfl⟩ := h
  split
  · exact ⟨b, rfl⟩
  · split
    · exact wake ⟨b, rfl⟩
    · exact wake ⟨b, rfl⟩

theorem finish (h : Alike p q) (i : Nat) (c : Call) (o : Outcome) :
    Alike (p.finish i c o) (q.finish i c o) := (h.note _).release i

theorem proceed (h : Alike p q) (i : Nat) : Alike (p.proceed i) (q.proceed i) := by
  have hsettings : ∀ es, (q.notes es).settings = (p.notes es).settings := fun _ => h.settings
  have hclock : ∀ es, (q.notes es).clock = (p.notes es).clock := fun _ => h.clock
  unfold Pool.proceed
  rw [h.workers]
  split
  · exact h
  · split
    · dsimp only
      split
      · exact (((h.notes _).setWorker _ _).note _).finish _ _ _
      · split
        · exact ((h.notes _).setWorker _ _).finish _ _ _
        · rw [hsettings, hclock]
          split
          · exact ((h.notes _).setWorker _ _).finish _ _ _
          · exact (h.notes _).setWorker _ _
    · exact h

theorem start (h : Alike p q) (i : Nat) (c : Call) : Alike (p.start i c) (q.start i c) := by
  unfold Pool.start
  rw [h.workers]
  split
  · exact h
  · split
    · refine proceed ?_ i
      unfold seize
      rw [h.clock]
      exact (((h.note _).setWorker _ _).note _)
    · exact (h.note _).finish _ _ _

theorem look (h : Alike p q) (d : Waiter) : Alike (p.look d) (q.look d) := by
  have hfree : q.freeWorker? = p.freeWorker? := h.freeWorker?
  unfold Pool.look
  rw [hfree, h.workers, h.clock]
  split
  · exact h.start _ _
  · split
    · exact h.note _
    · obtain ⟨b, rfl⟩ := h
      split
      · exact ⟨false, rfl⟩
      · exact ⟨false, rfl⟩

theorem turn (h : Alike p q) (t : Turn) : Alike (p.turn t) (q.turn t) := by
  cases t with
  | start i =>
    simp only [Pool.turn, h.workers]
    split
    · exact h.start _ _
    · exact h
  | look d => exact h.look d

theorem settle (h : Alike p q) : Alike p.settle q.settle := by
  induction p using Pool.settle.induct generalizing q with
  | case1 p hr => rw [settle_of_nil hr, settle_of_nil (h.ready.trans hr)]; exact h
  | case2 p t ts hr ih =>
    rw [settle_of_cons hr, settle_of_cons (h.ready.trans hr)]
    obtain ⟨b, rfl⟩ := h
    exact ih (turn ⟨b, rfl⟩ t)

/-! ### Actions -/

theorem dispatch (h : Alike p q) (c : Call) : Alike (p.dispatch c) (q.dispatch c) := by
  obtain ⟨b, rfl⟩ := h
  exact settle ⟨b, rfl⟩

theorem handle (h : Alike p q) (i : Nat) (c : Call) : Alike (p.handle i c) (q.handle i c) := by
  unfold Pool.handle
  rw [h.workers]
  split
  · exact h
  · split
    · exact h.note _
    · split
      · exact (h.start i c).settle
      · exact h.setWorker _ _

theorem tryHandle (h : Alike p q) (i : Nat) (c : Call) :
    Alike (p.tryHandle i c) (q.tryHandle i c) := by
  unfold Pool.tryHandle
  rw [h.workers]
  split
  · exact h
  · split
    · exact (h.start i c).settle
    · exact h.note _

/-- The answers are the same, and the pools stay alike. -/
def Both (x y : Answer × Pool) : Prop := x.1 = y.1 ∧ Alike x.2 y.2

theorem cancel (h : Alike p q) (name : String) : Both (p.cancel name) (q.cancel name) := by
  obtain ⟨b, rfl⟩ := h
  unfold Pool.cancel
  dsimp only
  split
  · exact ⟨rfl, (release ⟨b, rfl⟩ _).settle⟩
  · split
    · exact ⟨rfl, b, rfl⟩
    · split
      · exact ⟨rfl, b, rfl⟩
      · exact ⟨rfl, b, rfl⟩

theorem stdout (h : Alike p q) (i : Nat) (data : List UInt8) :
    Both (p.stdout i data) (q.stdout i data) := by
  unfold Pool.stdout
  rw [h.workers]
  split
  · exact ⟨rfl, h⟩
  · split
    · exact ⟨rfl, ((h.setWorker _ _).proceed i).settle⟩
    · exact ⟨rfl, h⟩

theorem stderr (h : Alike p q) (i : Nat) (data : List UInt8) :
    Both (p.stderr i data) (q.stderr i data) := by
  unfold Pool.stderr
  rw [h.workers]
  split
  · exact ⟨rfl, h⟩
  · split
    · exact ⟨rfl, (h.setWorker _ _).notes _⟩
    · exact ⟨rfl, h⟩

theorem closeStdin (h : Alike p q) (i : Nat) : Alike (p.closeStdin i) (q.closeStdin i) := by
  obtain ⟨b, rfl⟩ := h
  exact ⟨b, rfl⟩

theorem die (h : Alike p q) (i : Nat) (w : Worker) : Alike (p.die i w) (q.die i w) :=
  (h.setWorker _ _).notes _

theorem exit (h : Alike p q) (i : Nat) : Both (p.exit i) (q.exit i) := by
  unfold Pool.exit
  rw [h.workers]
  split
  · exact ⟨rfl, h⟩
  · split
    · refine ⟨rfl, (proceed ?_ i).settle⟩
      split
      · exact h.die _ _
      · exact (h.die _ _).note _
    · exact ⟨rfl, h⟩

theorem stop (h : Alike p q) (i : Nat) : Alike (p.stop i) (q.stop i) := by
  unfold Pool.stop
  rw [h.workers]
  split
  · exact h
  · split
    · exact ((h.die _ _).proceed i).settle
    · exact h.setWorker _ _

theorem foldl {f : Pool → Nat → Pool} (hf : ∀ {p q}, Alike p q → ∀ i, Alike (f p i) (f q i))
    (h : Alike p q) (is : List Nat) : Alike (is.foldl f p) (is.foldl f q) := by
  induction is generalizing p q with
  | nil => exact h
  | cons i is ih => exact ih (hf h i)

theorem stopAll (h : Alike p q) : Alike p.stopAll q.stopAll := by
  have hfold := h.foldl stop (List.range p.workers.length)
  unfold Pool.stopAll
  rw [h.workers]
  obtain ⟨b, hb⟩ := hfold
  rw [hb]
  exact settle ⟨b, rfl⟩

theorem expireWorker (h : Alike p q) (i : Nat) : Alike (p.expireWorker i) (q.expireWorker i) := by
  unfold Pool.expireWorker
  rw [h.workers, h.settings, h.clock]
  split
  · split
    · exact h.finish _ _ _
    · exact h
  · exact h

theorem expireWorkers (h : Alike p q) : Alike p.expireWorkers q.expireWorkers := by
  unfold Pool.expireWorkers
  rw [h.workers]
  exact (h.foldl expireWorker _).settle

theorem expireWaiting (h : Alike p q) (which : Waiter → Bool) :
    Alike (p.expireWaiting which) (q.expireWaiting which) := by
  obtain ⟨b, rfl⟩ := h
  exact ⟨b, rfl⟩

theorem expire (h : Alike p q) : Alike p.expire q.expire := h.expireWorkers.expireWaiting _

theorem advance (h : Alike p q) (n : Nat) : Alike (p.advance n) (q.advance n) := by
  induction n using Nat.strongRecOn generalizing p q with
  | _ n ih =>
    obtain ⟨b, rfl⟩ := h
    have hquiet : ({ p with permit := b } : Pool).quiet n = p.quiet n := rfl
    by_cases hn : n ≤ p.quiet n
    · rw [advance_of_le_quiet hn, advance_of_le_quiet (hquiet ▸ hn)]
      exact ⟨b, rfl⟩
    · have hn := Nat.not_le.1 hn
      have hlater := advance_of_quiet_lt (p := { p with permit := b }) (hquiet ▸ hn)
      rw [advance_of_quiet_lt hn, hlater, hquiet]
      exact ih _ (by omega) (expire ⟨b, rfl⟩)

/-- Whatever is done to pools that are alike, the answer is the same and they stay alike. -/
theorem step (h : Alike p q) (a : Action) : Both (p.step a) (q.step a) := by
  have hu := h.unseen
  cases a with
  | dispatch c => exact ⟨rfl, hu.dispatch c⟩
  | handle i c => exact ⟨rfl, hu.handle i c⟩
  | tryHandle i c => exact ⟨rfl, hu.tryHandle i c⟩
  | cancel name => exact hu.cancel name
  | stdout i data => exact hu.stdout i data
  | stderr i data => exact hu.stderr i data
  | closeStdin i => exact ⟨rfl, hu.closeStdin i⟩
  | exit i => exact hu.exit i
  | advance ms => exact ⟨rfl, hu.advance ms⟩
  | terminate i =>
    rw [step_terminate, step_terminate]
    exact ⟨rfl, hu.stop i⟩
  | teardown =>
    rw [step_teardown, step_teardown]
    exact ⟨rfl, hu.stopAll⟩

end Alike

end FunctionHost.Pool

namespace FunctionHost.Gateway

open FunctionHost.Pool

/-- What can be seen when a deed is done. -/
structure Sight where
  /-- The answer of an action, or what becomes of a request. -/
  answer : Answer ⊕ Served
  /-- What has happened. -/
  effects : List Effect
  /-- The workers. -/
  workers : List Worker
  /-- The calls that wait for any worker. -/
  waiting : List Waiter

/-- What can be seen of deeds done one after another. -/
def sights (g : Gateway) : List Deed → List Sight
  | [] => []
  | d :: ds =>
    let (answer, g) := g.perform d
    ⟨answer, g.pool.effects, g.pool.workers, g.pool.waiting⟩ :: g.sights ds

/-- Gateways before alike pools see the same, whatever they do. -/
theorem sights_eq_of_alike {g : Gateway} {p q : Pool} (h : Alike p.unseen q.unseen)
    (ds : List Deed) : ({ g with pool := p } : Gateway).sights ds =
      ({ g with pool := q } : Gateway).sights ds := by
  induction ds generalizing g p q with
  | nil => rfl
  | cons d ds ih =>
    -- the pools after the deed are alike, and the gateways are the same otherwise
    have key : ∃ (answer : Answer ⊕ Served) (g' : Gateway) (p' q' : Pool), Alike p' q' ∧
        ({ g with pool := p } : Gateway).perform d = (answer, { g' with pool := p' }) ∧
        ({ g with pool := q } : Gateway).perform d = (answer, { g' with pool := q' }) := by
      cases d with
      | acts a =>
        obtain ⟨hanswer, halike⟩ := h.step a
        exact ⟨_, g, _, _, halike, rfl, congrArg (fun x => (Sum.inl x, _)) hanswer.symm⟩
      | serves name r slot remote =>
        unfold perform serve
        dsimp only
        split
        · have hcall : callOf { g with pool := q } name r = callOf { g with pool := p } name r := by
            unfold callOf
            rw [show q.settings = p.settings from h.settings]
          rw [hcall]
          exact ⟨_, { g with ids := (g.ids.obtain slot).2 }, _, _,
            (h.step (.dispatch (callOf { g with pool := p } name r _ remote))).2, rfl, rfl⟩
        · exact ⟨_, g, _, _, h, rfl, rfl⟩
    obtain ⟨answer, g', p', q', halike, hp, hq⟩ := key
    rw [sights, sights, hp, hq]
    dsimp only
    rw [halike.effects, halike.workers, halike.waiting, ih halike.unseen]

end FunctionHost.Gateway
