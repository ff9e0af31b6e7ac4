import FunctionHost.Proofs.Pool.Clock
/-!
# What takes time

Only `advance` takes time, and it takes as much as it says (`scene_step`). Between two moments a
pool changes in moves that take none (`Moves.still`).
-/

namespace FunctionHost

open Relation

/-- How much time an action takes. -/
def Action.takes : Action → Nat
  | .advance n => n
  | _ => 0

namespace Pool

/-- The time, and what the pool is for. -/
def scene (p : Pool) : Nat × PoolSettings := (p.clock, p.settings)

/-! ### What takes time -/

section

variable (p : Pool) (i : Nat)

theorem clock_of_scene {p q : Pool} (h : q.scene = p.scene) : q.clock = p.clock :=
  congrArg Prod.fst h

theorem settings_of_scene {p q : Pool} (h : q.scene = p.scene) : q.settings = p.settings :=
  congrArg Prod.snd h

@[simp] theorem scene_note (e : Effect) : (p.note e).scene = p.scene := rfl
@[simp] theorem scene_notes (es : List Effect) : (p.notes es).scene = p.scene := rfl
@[simp] theorem scene_setWorker (w : Worker) : (p.setWorker i w).scene = p.scene := rfl
@[simp] theorem scene_seize (w : Worker) (c : Call) : (p.seize i w c).scene = p.scene := rfl
@[simp] theorem scene_unseen : p.unseen.scene = p.scene := rfl
@[simp] theorem scene_expireWaiting (which : Waiter → Bool) :
    (p.expireWaiting which).scene = p.scene := rfl

@[simp] theorem scene_wake : p.wake.scene = p.scene := by
  unfold wake
  split <;> rfl

@[simp] theorem scene_release : (p.release i).scene = p.scene := by
  unfold release
  split
  · rfl
  · split <;> exact scene_wake _

@[simp] theorem scene_finish (c : Call) (o : Outcome) : (p.finish i c o).scene = p.scene :=
  scene_release _ i

@[simp] theorem scene_proceed : (p.proceed i).scene = p.scene := by
  unfold proceed
  split
  · rfl
  · split
    · dsimp only
      split
      · simp
      · split
        · simp
        · split <;> simp
    · rfl

@[simp] theorem scene_start (c : Call) : (p.start i c).scene = p.scene := by
  unfold start
  split
  · rfl
  · split <;> simp

@[simp] theorem scene_look (d : Waiter) : (p.look d).scene = p.scene := by
  unfold look
  split
  · exact scene_start _ _ _
  · split
    · rfl
    · split <;> rfl

@[simp] theorem scene_turn (t : Turn) : (p.turn t).scene = p.scene := by
  cases t with
  | start i =>
    simp only [turn]
    split
    · exact scene_start _ _ _
    · rfl
  | look d => exact scene_look p d

@[simp] theorem scene_settle : p.settle.scene = p.scene := by
  induction p using settle.induct with
  | case1 p h => rw [settle_of_nil h]
  | case2 p t ts h ih =>
    rw [settle_of_cons h, ih, scene_turn]
    rfl

@[simp] theorem scene_expireWorker : (p.expireWorker i).scene = p.scene := by
  unfold expireWorker
  split
  · split
    · exact scene_finish _ _ _ _
    · rfl
  · rfl

theorem scene_foldl {α : Type} {f : Pool → α → Pool} (h : ∀ p a, (f p a).scene = p.scene)
    (as : List α) : (as.foldl f p).scene = p.scene :=
  List.foldlRecOn (motive := fun q : Pool => q.scene = p.scene) as f rfl
    fun q hq a _ => (h q a).trans hq

@[simp] theorem scene_expireWorkers : p.expireWorkers.scene = p.scene :=
  (scene_settle _).trans (scene_foldl p (fun p i => scene_expireWorker p i) _)

@[simp] theorem scene_expire : p.expire.scene = p.scene := by
  unfold expire
  rw [scene_expireWaiting, scene_expireWorkers]

theorem scene_advance (n : Nat) : (p.advance n).scene = (p.clock + n, p.settings) := by
  induction n using Nat.strongRecOn generalizing p with
  | _ n ih =>
    by_cases hn : n ≤ p.quiet n
    · rw [advance_of_le_quiet hn]
      rfl
    · have hlt := Nat.not_le.1 hn
      have hscene := scene_expire { p with clock := p.clock + p.quiet n + 1 }
      rw [advance_of_quiet_lt hlt, ih _ (by omega), clock_of_scene hscene,
        settings_of_scene hscene]
      refine Prod.ext ?_ rfl
      dsimp only
      omega

@[simp] theorem scene_stop : (p.stop i).scene = p.scene := by
  unfold stop
  split
  · rfl
  · split
    · simp [die]
    · rfl

@[simp] theorem scene_handle (c : Call) : (p.handle i c).scene = p.scene := by
  unfold handle
  split
  · rfl
  · split
    · rfl
    · split
      · rw [scene_settle, scene_start]
      · rfl

@[simp] theorem scene_tryHandle (c : Call) : (p.tryHandle i c).scene = p.scene := by
  unfold tryHandle
  split
  · rfl
  · split
    · rw [scene_settle, scene_start]
    · rfl

@[simp] theorem scene_cancel (name : String) : (p.cancel name).2.scene = p.scene := by
  unfold cancel
  split
  · exact (scene_settle _).trans (scene_release _ _)
  · split
    · rfl
    · split <;> rfl

@[simp] theorem scene_stdout (data : List UInt8) : (p.stdout i data).2.scene = p.scene := by
  unfold stdout
  split
  · rfl
  · split
    · exact (scene_settle _).trans (scene_proceed _ _)
    · rfl

@[simp] theorem scene_stderr (data : List UInt8) : (p.stderr i data).2.scene = p.scene := by
  unfold stderr
  split
  · rfl
  · split <;> rfl

@[simp] theorem scene_exit : (p.exit i).2.scene = p.scene := by
  unfold exit
  split
  · rfl
  · split
    · dsimp only
      split <;> exact (scene_settle _).trans (scene_proceed _ _)
    · rfl

@[simp] theorem scene_stopAll : p.stopAll.scene = p.scene :=
  (scene_settle _).trans (scene_foldl p (fun p i => scene_stop p i) _)

/-- Only letting time pass takes time. -/
theorem scene_step (a : Action) : (p.step a).2.scene = (p.clock + a.takes, p.settings) := by
  cases a with
  | dispatch c => exact scene_settle _
  | handle i c => exact scene_handle p.unseen i c
  | tryHandle i c => exact scene_tryHandle p.unseen i c
  | cancel name => exact scene_cancel p.unseen name
  | stdout i data => exact scene_stdout p.unseen i data
  | stderr i data => exact scene_stderr p.unseen i data
  | closeStdin i => rfl
  | exit i => exact scene_exit p.unseen i
  | advance n => exact scene_advance p.unseen n
  | terminate i =>
    rw [step_terminate]
    exact scene_stop p.unseen i
  | teardown =>
    rw [step_teardown]
    exact scene_stopAll p.unseen

theorem settings_after (s : PoolSettings) (n : Nat) (as : List Action) :
    ((launched s n).after as).settings = s := by
  refine after_induction (motive := fun _ p => p.settings = s) rfl (fun as a h => ?_) as
  exact (congrArg Prod.snd (scene_step _ a)).trans h

end

/-! ### Moves that take no time -/

section

variable {p q : Pool}

theorem Comes.scene {i : Nat} {c : Call} (hc : Comes p i c q) : q.scene = p.scene := by
  cases hc <;> rfl

/-- Time does not go back, and what the pool is for does not change. -/
theorem Move.scene (hm : Move p q) : p.clock ≤ q.clock ∧ q.settings = p.settings := by
  have same : ∀ {r : Pool}, r.scene = p.scene → p.clock ≤ r.clock ∧ r.settings = p.settings :=
    fun h => ⟨Nat.le_of_eq (clock_of_scene h).symm, settings_of_scene h⟩
  cases hm with
  | stirs hs =>
    cases hs with
    | begins hc hw hr => exact same hc.scene
    | fails hc hw hr => exact same ((scene_finish _ _ _ _).trans hc.scene)
    | ticks => exact ⟨Nat.le_add_right _ _, rfl⟩
    | completes hw hinv hd => exact same (scene_finish _ _ _ _)
    | closes hw hinv ha hu => exact same (scene_finish _ _ _ _)
    | expires hw hinv ht => exact same (scene_finish _ _ _ _)
    | _ => exact same rfl
  | _ => exact same rfl

theorem Moves.scene (hm : Moves p q) : p.clock ≤ q.clock ∧ q.settings = p.settings := by
  induction hm with
  | refl => exact ⟨Nat.le_refl _, rfl⟩
  | tail _ hm ih =>
    obtain ⟨hclock, hsettings⟩ := hm.scene
    exact ⟨Nat.le_trans ih.1 hclock, hsettings.trans ih.2⟩

/-- What an action does by itself takes no time. -/
theorem Does.scene {a : Action} (hd : Does p a q) : q.scene = p.scene := by
  cases hd with
  | enters _ _ _ he => cases he <;> rfl
  | drops _ _ _ hd =>
    cases hd with
    | running hw hinv hn => exact scene_release _ _
    | _ => rfl
  | prints _ _ _ _ _ hp => cases hp; rfl
  | other _ _ _ => rfl

/-- What every move keeps that takes no time, moves keep that take no time together. -/
theorem Moves.still {P : Pool → Prop}
    (hP : ∀ p q, Move p q → q.clock = p.clock → P p → P q) (hm : Moves p q)
    (hc : q.clock = p.clock) (h : P p) : P q := by
  induction hm with
  | refl => exact h
  | @tail r q hms hm ih =>
    have hpr := (Moves.scene hms).1
    have hrq := hm.scene.1
    exact hP r q hm (by omega) (ih (by omega))

end

end Pool

end FunctionHost
