import FunctionHost.Proofs.Pool.Move
import FunctionHost.Proofs.Pool.Run
/-!
# What an action comes down to

An action on a settled pool lets a call in, drops one, or prints, or does none of this; moves follow
until the pool is settled again. Main statements: `step_cases`, which says so for every action, and
`after_invariant`, by which what the moves keep holds after every run.
-/

namespace FunctionHost

open Relation FunctionHost.Http

/-- The action can end a process. -/
def Action.kills : Action → Bool
  | .exit _ | .terminate _ | .teardown => true
  | _ => false

namespace Pool

/-- The pool before anything has been seen. -/
def unseen (p : Pool) : Pool := { p with effects := [] }

@[simp] theorem ready_unseen (p : Pool) : p.unseen.ready = p.ready := rfl
@[simp] theorem effects_unseen (p : Pool) : p.unseen.effects = [] := rfl

/-! ### Time -/

theorem foldl_min_le (c : Nat) (ds : List Nat) (n : Nat) :
    ds.foldl (fun m d => min m (d - c - 1)) n ≤ n := by
  induction ds generalizing n with
  | nil => exact Nat.le_refl _
  | cons d ds ih => exact Nat.le_trans (ih _) (Nat.min_le_left _ _)

theorem foldl_min_le_of_mem (c : Nat) {ds : List Nat} (n : Nat) {d : Nat} (h : d ∈ ds) :
    ds.foldl (fun m d => min m (d - c - 1)) n ≤ d - c - 1 := by
  induction ds generalizing n with
  | nil => simp at h
  | cons e ds ih =>
    rcases List.mem_cons.1 h with rfl | h
    · exact Nat.le_trans (foldl_min_le c ds _) (Nat.min_le_right _ _)
    · exact ih _ h

theorem quiet_le (p : Pool) (n : Nat) : p.quiet n ≤ n := foldl_min_le _ _ _

/-- Up to the end of the quiet time no deadline has passed. -/
theorem clock_add_quiet_lt {p : Pool} {t : Nat} (n : Nat) (h : t ∈ p.deadlines)
    (ht : p.clock < t) : p.clock + p.quiet n < t := by
  have : p.quiet n ≤ t - p.clock - 1 := foldl_min_le_of_mem _ n h
  omega

@[simp] theorem ready_expireWaiting (p : Pool) (which : Waiter → Bool) :
    (p.expireWaiting which).ready = p.ready := rfl

theorem expireWorker_stirs (p : Pool) (i : Nat) : Stirs p (p.expireWorker i) := by
  unfold expireWorker
  split
  next inv h =>
    obtain ⟨w, hw, hinv⟩ := Option.bind_eq_some_iff.1 h
    split
    next ht => exact .single (.expires hw (running?_eq_some_iff.1 hinv) ht)
    next => exact .refl
  next => exact .refl

theorem foldl_related {R : Pool → Pool → Prop} {α : Type} {f : Pool → α → Pool}
    (h : ∀ p a, ReflTransGen R p (f p a)) (as : List α) (p : Pool) :
    ReflTransGen R p (as.foldl f p) := by
  induction as generalizing p with
  | nil => exact .refl
  | cons a as ih => exact (h p a).trans (ih _)

theorem expireWorkers_stirs (p : Pool) : Stirs p p.expireWorkers :=
  (foldl_related expireWorker_stirs _ p).trans (settle_stirs _)

theorem expire_stirs (p : Pool) : Stirs p p.expire :=
  (expireWorkers_stirs p).tail (.givesUp _)

theorem ready_expire (p : Pool) : p.expire.ready = [] := ready_settle _

theorem advance_stirs (n : Nat) (p : Pool) (h : p.ready = []) :
    Stirs p (p.advance n) ∧ (p.advance n).ready = [] := by
  induction n using Nat.strongRecOn generalizing p with
  | _ n ih =>
    rw [advance]
    have hq := p.quiet_le n
    split
    next hn =>
      refine ⟨.single (.ticks fun t ht hc => ?_), h⟩
      have := clock_add_quiet_lt n ht hc
      omega
    next hn =>
      have htick : Stir p { p with clock := p.clock + p.quiet n + 1 } := by
        rw [Nat.add_assoc]
        refine .ticks fun t ht hc => ?_
        have := clock_add_quiet_lt n ht hc
        omega
      obtain ⟨hm, hr⟩ := ih (n - p.quiet n - 1) (by omega) _
        (ready_expire { p with clock := p.clock + p.quiet n + 1 })
      exact ⟨((ReflTransGen.single htick).trans (expire_stirs _)).trans hm, hr⟩

/-! ### The end of workers -/

/-- A pool of which a worker has been terminated. -/
def stop (p : Pool) (i : Nat) : Pool :=
  match p.workers[i]? with
  | none => p
  | some w =>
    if w.alive then ((p.die i w).proceed i).settle
    else p.setWorker i { w with terminated := true }

/-- A pool of which all workers have been terminated. -/
def stopAll (p : Pool) : Pool := ((List.range p.workers.length).foldl stop p).roused.settle

/-- A worker is always terminated: its process is killed only if it runs. -/
theorem terminate_eq (p : Pool) (i : Nat) : p.terminate i = (.ok (), p.stop i) := by
  unfold terminate stop
  cases hw : p.workers[i]? with
  | none => rfl
  | some w =>
    by_cases ha : w.alive
    · simp only [Worker.kill, if_pos ha]
    · simp only [if_neg ha]

theorem foldl_terminateNext (failures : Nat) (p : Pool) (is : List Nat) :
    is.foldl terminateNext (failures, p) = (failures, is.foldl stop p) := by
  induction is generalizing p with
  | nil => rfl
  | cons i is ih =>
    have hnext : terminateNext (failures, p) i = (failures, p.stop i) := by
      simp only [terminateNext, terminate_eq]
    rw [List.foldl_cons, List.foldl_cons, hnext, ih]

/-- So a teardown counts no failures. -/
theorem teardown_eq (p : Pool) : p.teardown = (0, p.stopAll) := by
  rw [teardown, foldl_terminateNext]
  rfl

theorem step_terminate (p : Pool) (i : Nat) :
    p.step (.terminate i) = (.ok, p.unseen.stop i) := by
  simp only [step, terminate_eq]
  rfl

theorem step_teardown (p : Pool) : p.step .teardown = (.failures 0, p.unseen.stopAll) := by
  simp only [step, teardown_eq]
  rfl

theorem stop_moves (p : Pool) (i : Nat) : Moves p (p.stop i) := by
  unfold stop
  split
  next => exact .refl
  next w hw =>
    split
    next ha =>
      exact (ReflTransGen.single (.dies hw ha)).trans
        (moves_of_stirs ((proceed_stirs _ _).trans (settle_stirs _)))
    next ha => exact .single (.marks hw (by simpa using ha))

theorem ready_stop {p : Pool} (i : Nat) (h : p.ready = []) : (p.stop i).ready = [] := by
  unfold stop
  split
  · exact h
  · split
    · exact ready_settle _
    · exact h

theorem stopAll_moves (p : Pool) : Moves p p.stopAll := by
  unfold stopAll
  exact ((foldl_related stop_moves _ p).tail .wakesAll).trans (moves_of_stirs (settle_stirs _))

/-! ### Actions -/

/-- What an action does by itself, before anything follows from it. -/
inductive Does (p : Pool) (a : Action) : Pool → Prop where
  /-- A call comes in. -/
  | enters {c : Call} {q : Pool} : madeBy p a = [c] → droppedBy p a = [] →
      (∀ i, printedBy i p a = []) → Enters p.unseen c q → Does p a q
  /-- A call is dropped. -/
  | drops {name : String} {q : Pool} : madeBy p a = [] → droppedBy p a = [name] →
      (∀ i, printedBy i p a = []) → Drops p.unseen name q → Does p a q
  /-- An interpreter prints. -/
  | prints {i : Nat} {data : List UInt8} {q : Pool} : madeBy p a = [] → droppedBy p a = [] →
      a = .stdout i data → printedBy i p a = data → (∀ j, j ≠ i → printedBy j p a = []) →
      Prints p.unseen i data q → Does p a q
  /-- Nothing of this kind. -/
  | other : madeBy p a = [] → droppedBy p a = [] → (∀ i, printedBy i p a = []) →
      Does p a p.unseen

/-- A call on a settled pool looks for a worker at once. -/
theorem dispatch_eq_look {p : Pool} (h : p.ready = []) (c : Call) :
    p.dispatch c = (p.look ⟨c, p.clock + p.settings.dispatchTimeout⟩).settle := by
  set d : Waiter := ⟨c, p.clock + p.settings.dispatchTimeout⟩
  have hready : ({ p with ready := p.ready ++ [.look d] } : Pool).ready = [.look d] := by
    rw [h]
    rfl
  have hback : ({ p with ready := [] } : Pool) = p := by rw [← h]
  rw [show p.dispatch c = ({ p with ready := p.ready ++ [.look d] } : Pool).settle from rfl,
    settle_of_cons hready]
  exact congrArg (fun q : Pool => (q.look d).settle) hback

/-- A call that enters on a free worker begins there next. -/
theorem settle_granted {p : Pool} {i : Nat} {w : Worker} (h : p.ready = [])
    (hw : p.workers[i]? = some w) (c : Call) :
    ({ p.setWorker i { w with hold := .granted c } with
      ready := p.ready ++ [.start i] } : Pool).settle = (p.start i c).settle := by
  set w' : Worker := { w with hold := .granted c } with hw'
  set q : Pool := { p.setWorker i w' with ready := p.ready ++ [.start i] } with hq
  have hget : (p.setWorker i w').workers[i]? = some w' := getElem?_setWorker hw w'
  have heq : ({ q with ready := [] } : Pool) = p.setWorker i w' := by simp [hq, setWorker, h]
  have hturn : (p.setWorker i w').turn (.start i) = (p.setWorker i w').start i c := by
    simp only [turn, hget]
    rfl
  have hstart : (p.setWorker i w').start i c = p.start i c := by
    unfold start
    simp only [hget, hw]
    split
    · have : (p.setWorker i w').seize i w' c = p.seize i w c := by
        simp [seize, setWorker, note, hw', textFor]
      rw [this]
    · have := finish_setWorker_hold (p := p.note (.obtained i c)) hw w (.granted c) c
        (.failed (.write i))
      rw [setWorker_self (p := p.note (.obtained i c)) hw] at this
      exact this
  have hready : q.ready = [.start i] := by simp [hq, h]
  rw [settle_of_cons hready, heq, hturn, hstart]

theorem start_stirs_of_free {p : Pool} {i : Nat} {w : Worker} (h : p.ready = [])
    (hw : p.workers[i]? = some w) (c : Call) :
    Stirs { p.setWorker i { w with hold := .granted c } with ready := p.ready ++ [.start i] }
      (p.start i c).settle := by
  rw [← settle_granted h hw c]
  exact settle_stirs _

theorem handle_cases (p : Pool) (i : Nat) (c : Call) (h : p.ready = []) :
    (i < p.workers.length ∧ ∃ q, Enters p c q ∧ p.handle i c = q.settle) ∨
      (¬ i < p.workers.length ∧ p.handle i c = p) := by
  unfold handle
  cases hw : p.workers[i]? with
  | none => exact .inr ⟨by simpa using hw, rfl⟩
  | some w =>
    refine .inl ⟨(List.getElem?_eq_some_iff.1 hw).1, ?_⟩
    dsimp only
    split
    next ht => exact ⟨_, .rejected hw (.inl ⟨ht, rfl⟩), (settle_of_nil (p := p.note _) h).symm⟩
    next ht =>
      split
      next hf =>
        exact ⟨_, .granted hw (isFree_iff.2 ⟨by simpa using ht, hf⟩), (settle_granted h hw c).symm⟩
      next hf =>
        exact ⟨_, .queued hw (by simpa using ht) hf,
          (settle_of_nil (p := p.setWorker i _) h).symm⟩

theorem tryHandle_cases (p : Pool) (i : Nat) (c : Call) (h : p.ready = []) :
    (i < p.workers.length ∧ ∃ q, Enters p c q ∧ p.tryHandle i c = q.settle) ∨
      (¬ i < p.workers.length ∧ p.tryHandle i c = p) := by
  unfold tryHandle
  cases hw : p.workers[i]? with
  | none => exact .inr ⟨by simpa using hw, rfl⟩
  | some w =>
    refine .inl ⟨(List.getElem?_eq_some_iff.1 hw).1, ?_⟩
    dsimp only
    split
    next hf => exact ⟨_, .granted hw hf, (settle_granted h hw c).symm⟩
    next hf =>
      exact ⟨_, .rejected hw (.inr ⟨by simpa using hf, rfl⟩),
        (settle_of_nil (p := p.note _) h).symm⟩

theorem runs_eq_true_iff {name : String} {w : Worker} :
    runs name w = true ↔ ∃ inv, w.hold = .running inv ∧ inv.call.name = name := by
  unfold runs
  cases h : w.running? with
  | none =>
    have : ∀ inv, w.hold ≠ .running inv := fun inv hi => by
      simp [running?_eq_some_iff.2 hi] at h
    simp [this]
  | some inv =>
    have := running?_eq_some_iff.1 h
    simp [this]

theorem modify_eq_set_of_getElem? {p : Pool} {i : Nat} {w : Worker} (h : p.workers[i]? = some w)
    (f : Worker → Worker) : p.workers.modify i f = p.workers.set i (f w) := by
  have : Inhabited Worker := ⟨w⟩
  rw [List.modify_eq_set, h, Option.getD_some]

theorem cancel_cases (p : Pool) (name : String) (h : p.ready = []) :
    ((p.cancel name).1 = .ok ∧ ∃ q, Drops p name q ∧ Stirs q (p.cancel name).2 ∧
      (p.cancel name).2.ready = []) ∨ ((p.cancel name).1 ≠ .ok ∧ (p.cancel name).2 = p) := by
  unfold cancel
  split
  next i hi =>
    obtain ⟨hlt, hr, -⟩ := List.findIdx?_eq_some_iff_getElem.1 hi
    obtain ⟨inv, hinv, hname⟩ := runs_eq_true_iff.1 hr
    exact .inl ⟨rfl, _, .running (List.getElem?_eq_getElem hlt) hinv hname, settle_stirs _,
      ready_settle _⟩
  next =>
    split
    next i hi =>
      obtain ⟨hlt, hq, -⟩ := List.findIdx?_eq_some_iff_getElem.1 hi
      refine .inl ⟨rfl, _, .queued (List.getElem?_eq_getElem hlt) hq, ?_, h⟩
      rw [modify_eq_set_of_getElem? (List.getElem?_eq_getElem hlt)]
      exact .refl
    next =>
      split
      next hw => exact .inl ⟨rfl, _, .waiting hw, .refl, h⟩
      next => exact .inr ⟨by simp, rfl⟩

theorem stdout_cases (p : Pool) (i : Nat) (data : List UInt8) :
    ((p.stdout i data).1 = .ok ∧ ∃ q, Prints p i data q ∧ Stirs q (p.stdout i data).2 ∧
      (p.stdout i data).2.ready = []) ∨ ((p.stdout i data).1 ≠ .ok ∧ (p.stdout i data).2 = p) := by
  unfold stdout
  cases hw : p.workers[i]? with
  | none => exact .inr ⟨by simp, rfl⟩
  | some w =>
    dsimp only
    split
    next ha =>
      exact .inl ⟨rfl, _, .feeds hw ha, (proceed_stirs _ _).trans (settle_stirs _), ready_settle _⟩
    next => exact .inr ⟨by simp, rfl⟩

theorem stderr_stirs (p : Pool) (i : Nat) (data : List UInt8) (h : p.ready = []) :
    Stirs p (p.stderr i data).2 ∧ (p.stderr i data).2.ready = [] := by
  unfold stderr
  split
  next => exact ⟨.refl, h⟩
  next w hw =>
    split
    next => exact ⟨.single (.errs data hw), h⟩
    next => exact ⟨.refl, h⟩

theorem closeStdin_stirs (p : Pool) (i : Nat) : Stirs p (p.closeStdin i) := by
  unfold closeStdin
  cases hw : p.workers[i]? with
  | none =>
    rw [List.modify_eq_self (List.getElem?_eq_none_iff.1 hw)]
  | some w =>
    rw [modify_eq_set_of_getElem? hw]
    exact .single (.deafens hw)

theorem exit_moves (p : Pool) (i : Nat) (h : p.ready = []) :
    Moves p (p.exit i).2 ∧ (p.exit i).2.ready = [] := by
  unfold exit
  split
  next => exact ⟨.refl, h⟩
  next w hw =>
    split
    next ha =>
      refine ⟨?_, ready_settle _⟩
      refine .trans ?_ (moves_of_stirs ((proceed_stirs _ _).trans (settle_stirs _)))
      split
      · exact .single (.dies hw ha)
      · exact (ReflTransGen.single (.dies hw ha)).tail .reports
    next => exact ⟨.refl, h⟩

/-- Every action on a settled pool does one thing by itself, from which moves follow until the pool
is settled. The moves leave the processes alive unless the action ends one. -/
theorem step_cases (p : Pool) (a : Action) (h : p.ready = []) :
    (∃ q, Does p a q ∧ Moves q (p.step a).2 ∧ (a.kills = false → Stirs q (p.step a).2)) ∧
      (p.step a).2.ready = [] := by
  have h' : p.unseen.ready = [] := h
  have gentle : ∀ {q r : Pool}, Stirs q r → Moves q r ∧ (a.kills = false → Stirs q r) :=
    fun hs => ⟨moves_of_stirs hs, fun _ => hs⟩
  cases a with
  | dispatch c =>
    exact ⟨⟨_, .enters rfl rfl (fun _ => rfl) .looks, gentle (settle_stirs _)⟩, ready_settle _⟩
  | handle i c =>
    rcases handle_cases p.unseen i c h' with ⟨hi, q, he, hq⟩ | ⟨hi, hp⟩
    · refine ⟨⟨q, .enters (if_pos hi) rfl (fun _ => rfl) he, gentle ?_⟩, ?_⟩
      · exact (congrArg (Stirs q) hq).mpr (settle_stirs q)
      · exact (congrArg ready hq).trans (ready_settle q)
    · refine ⟨⟨_, .other (if_neg hi) rfl fun _ => rfl, gentle ?_⟩, ?_⟩
      · exact (congrArg (Stirs p.unseen) hp).mpr .refl
      · exact (congrArg ready hp).trans h'
  | tryHandle i c =>
    rcases tryHandle_cases p.unseen i c h' with ⟨hi, q, he, hq⟩ | ⟨hi, hp⟩
    · refine ⟨⟨q, .enters (if_pos hi) rfl (fun _ => rfl) he, gentle ?_⟩, ?_⟩
      · exact (congrArg (Stirs q) hq).mpr (settle_stirs q)
      · exact (congrArg ready hq).trans (ready_settle q)
    · refine ⟨⟨_, .other (if_neg hi) rfl fun _ => rfl, gentle ?_⟩, ?_⟩
      · exact (congrArg (Stirs p.unseen) hp).mpr .refl
      · exact (congrArg ready hp).trans h'
  | cancel name =>
    rcases cancel_cases p.unseen name h' with ⟨ha, q, hd, hm, hr⟩ | ⟨ha, hp⟩
    · exact ⟨⟨q, .drops rfl (if_pos ha) (fun _ => rfl) hd, gentle hm⟩, hr⟩
    · refine ⟨⟨_, .other rfl (if_neg ha) fun _ => rfl, gentle ?_⟩, ?_⟩
      · exact (congrArg (Stirs p.unseen) hp).mpr .refl
      · exact (congrArg ready hp).trans h'
  | stdout i data =>
    have hj : ∀ j, j ≠ i → printedBy j p (.stdout i data) = [] := fun j hj =>
      if_neg fun hc => hj hc.1.symm
    rcases stdout_cases p.unseen i data with ⟨ha, q, hd, hm, hr⟩ | ⟨ha, hp⟩
    · exact ⟨⟨q, .prints rfl rfl rfl (if_pos ⟨rfl, ha⟩) hj hd, gentle hm⟩, hr⟩
    · refine ⟨⟨_, .other rfl rfl fun j => if_neg fun hc => ha hc.2, gentle ?_⟩, ?_⟩
      · exact (congrArg (Stirs p.unseen) hp).mpr .refl
      · exact (congrArg ready hp).trans h'
  | stderr i data =>
    obtain ⟨hm, hr⟩ := stderr_stirs p.unseen i data h'
    exact ⟨⟨_, .other rfl rfl fun _ => rfl, gentle hm⟩, hr⟩
  | closeStdin i =>
    exact ⟨⟨_, .other rfl rfl fun _ => rfl, gentle (closeStdin_stirs p.unseen i)⟩, h'⟩
  | exit i =>
    obtain ⟨hm, hr⟩ := exit_moves p.unseen i h'
    exact ⟨⟨_, .other rfl rfl fun _ => rfl, hm, fun hk => Bool.noConfusion hk⟩, hr⟩
  | advance ms =>
    obtain ⟨hm, hr⟩ := advance_stirs ms p.unseen h'
    exact ⟨⟨_, .other rfl rfl fun _ => rfl, gentle hm⟩, hr⟩
  | terminate i =>
    rw [step_terminate]
    exact ⟨⟨_, .other rfl rfl fun _ => rfl, stop_moves p.unseen i,
      fun hk => Bool.noConfusion hk⟩, ready_stop i h'⟩
  | teardown =>
    rw [step_teardown]
    exact ⟨⟨_, .other rfl rfl fun _ => rfl, stopAll_moves p.unseen,
      fun hk => Bool.noConfusion hk⟩, ready_settle _⟩

/-- A settled pool is settled after every run. -/
theorem ready_after {p : Pool} (h : p.ready = []) (as : List Action) : (p.after as).ready = [] :=
  after_induction (motive := fun _ p => p.ready = []) h
    (fun _ a hr => (step_cases _ a hr).2) as

/-! ### What holds after every run -/

/-- What happens to a pool, one thing at a time. -/
inductive Change : Pool → Pool → Prop where
  /-- What was seen is forgotten. -/
  | forgets {p : Pool} : Change p p.unseen
  /-- A call comes in. -/
  | enters {p q : Pool} {c : Call} : Enters p c q → Change p q
  /-- A call is dropped. -/
  | drops {p q : Pool} {name : String} : Drops p name q → Change p q
  /-- An interpreter prints. -/
  | prints {p q : Pool} {i : Nat} {data : List UInt8} : Prints p i data q → Change p q
  /-- Anything else. -/
  | moves {p q : Pool} : Move p q → Change p q

theorem Does.changes {p q : Pool} {a : Action} (hd : Does p a q) : ReflTransGen Change p q := by
  refine .head .forgets ?_
  cases hd with
  | enters _ _ _ h => exact .single (.enters h)
  | drops _ _ _ h => exact .single (.drops h)
  | prints _ _ _ _ _ h => exact .single (.prints h)
  | other _ _ _ => exact .refl

theorem step_changes (p : Pool) (a : Action) (h : p.ready = []) :
    ReflTransGen Change p (p.step a).2 := by
  obtain ⟨⟨q, hd, hm, -⟩, -⟩ := step_cases p a h
  exact hd.changes.trans (hm.lift id fun _ _ => .moves)

/-- What every change keeps, any number of changes keep. -/
theorem changes_invariant {P : Pool → Prop} (hP : ∀ p q, Change p q → P p → P q) {p q : Pool}
    (hc : ReflTransGen Change p q) (h : P p) : P q := by
  induction hc with
  | refl => exact h
  | tail _ hc ih => exact hP _ _ hc ih

/-- What every change keeps holds after every run of a settled pool. -/
theorem after_invariant {P : Pool → Prop} (hP : ∀ p q, Change p q → P p → P q) {p : Pool}
    (hr : p.ready = []) (h : P p) (as : List Action) : P (p.after as) := by
  refine (after_induction (motive := fun _ p => p.ready = [] ∧ P p) ⟨hr, h⟩ ?_ as).2
  intro _ a ⟨hr, h⟩
  exact ⟨(step_cases _ a hr).2, changes_invariant hP (step_changes _ a hr) h⟩

end Pool

end FunctionHost
