import FunctionHost.Proofs.Pool.Step
/-!
# Millisecond by millisecond

An action that lets `m + n` milliseconds pass is one that lets `m` pass and then one that lets `n`
pass (`advance_add`), so a run can be taken millisecond by millisecond (`moments`), and all that is
seen in it has its time (`timeline`). What was seen before does not matter for what happens next
(`preceded`), therefore nothing is lost when an action forgets it.

Main statements: `after_moments` and `map_timeline`, a run taken millisecond by millisecond leaves
the same pool and shows the same; and `expire_of_gives_up`, what happens if a call gives up before
the invocations end that end at the same moment.
-/

namespace FunctionHost.Pool

/-- The pool if `es` was seen before. -/
def preceded (es : List Effect) (p : Pool) : Pool := { p with effects := es ++ p.effects }

/-- An action, millisecond by millisecond. -/
def momentsOf : Action → List Action
  | .advance n => List.replicate n (.advance 1)
  | a => [a]

/-- A run, millisecond by millisecond. -/
def moments (as : List Action) : List Action := as.flatMap momentsOf

/-- What an action shows, with the time at its end. -/
def timed (p : Pool) (a : Action) : List (Nat × Effect) :=
  (p.step a).2.effects.map ((p.step a).2.clock, ·)

/-- All that is seen in a run, each thing with its time. -/
def timeline (p : Pool) (as : List Action) : List (Nat × Effect) := along timed p (moments as)

/-- Before time is up for somebody, time only passes. -/
theorem advance_of_le_quiet {p : Pool} {n : Nat} (h : n ≤ p.quiet n) :
    p.advance n = { p with clock := p.clock + n } := by
  rw [advance, if_pos h]

theorem advance_of_quiet_lt {p : Pool} {n : Nat} (h : p.quiet n < n) : p.advance n =
    ({ p with clock := p.clock + p.quiet n + 1 } : Pool).expire.advance (n - p.quiet n - 1) := by
  rw [advance, if_neg (Nat.not_le.2 h)]

/-! ### What was seen does not matter -/

section

variable (es : List Effect) (p : Pool)

@[simp] theorem workers_preceded : (p.preceded es).workers = p.workers := rfl
@[simp] theorem waiting_preceded : (p.preceded es).waiting = p.waiting := rfl
@[simp] theorem ready_preceded : (p.preceded es).ready = p.ready := rfl
@[simp] theorem clock_preceded : (p.preceded es).clock = p.clock := rfl
@[simp] theorem settings_preceded : (p.preceded es).settings = p.settings := rfl

theorem notes_preceded (fs : List Effect) :
    (p.preceded es).notes fs = (p.notes fs).preceded es := by
  simp [preceded, notes]

theorem note_preceded (e : Effect) : (p.preceded es).note e = (p.note e).preceded es :=
  notes_preceded es p [e]

theorem setWorker_preceded (i : Nat) (w : Worker) :
    (p.preceded es).setWorker i w = (p.setWorker i w).preceded es := rfl

theorem wake_preceded : (p.preceded es).wake = p.wake.preceded es := by
  unfold wake
  rw [waiting_preceded]
  split <;> rfl

theorem release_preceded (i : Nat) : (p.preceded es).release i = (p.release i).preceded es := by
  unfold release
  rw [workers_preceded]
  split
  · rfl
  · split
    · exact wake_preceded es (p.setWorker i _)
    · exact wake_preceded es { p.setWorker i _ with ready := _ }

theorem finish_preceded (i : Nat) (c : Call) (o : Outcome) :
    (p.preceded es).finish i c o = (p.finish i c o).preceded es := by
  unfold finish
  rw [note_preceded, release_preceded]

theorem proceed_preceded (i : Nat) : (p.preceded es).proceed i = (p.proceed i).preceded es := by
  unfold proceed
  rw [workers_preceded]
  split
  · rfl
  · split
    · dsimp only
      simp only [notes_preceded, setWorker_preceded, note_preceded, finish_preceded,
        settings_preceded, clock_preceded]
      split
      · rfl
      · split
        · rfl
        · split <;> rfl
    · rfl

theorem start_preceded (i : Nat) (c : Call) :
    (p.preceded es).start i c = (p.start i c).preceded es := by
  unfold start
  rw [workers_preceded]
  split
  · rfl
  · split
    · rw [← proceed_preceded]
      simp only [seize, note_preceded, setWorker_preceded, clock_preceded]
    · rw [note_preceded, finish_preceded]

theorem look_preceded (d : Waiter) : (p.preceded es).look d = (p.look d).preceded es := by
  have hfree : (p.preceded es).freeWorker? = p.freeWorker? := rfl
  unfold look
  rw [hfree, workers_preceded, clock_preceded]
  split
  · exact start_preceded es p _ _
  · split
    · exact note_preceded es p _
    · split
      · exact note_preceded es { p with permit := false } _
      · rfl

theorem turn_preceded (t : Turn) : (p.preceded es).turn t = (p.turn t).preceded es := by
  cases t with
  | start i =>
    simp only [turn, workers_preceded]
    split
    · exact start_preceded es p _ _
    · rfl
  | look d => exact look_preceded es p d

theorem settle_preceded : (p.preceded es).settle = p.settle.preceded es := by
  induction p using settle.induct with
  | case1 p h => rw [settle_of_nil h, settle_of_nil (p := p.preceded es) h]
  | case2 p t ts h ih =>
    rw [settle_of_cons h, settle_of_cons (p := p.preceded es) h, ← ih]
    exact congrArg settle (turn_preceded es { p with ready := ts } t)

theorem expireWorker_preceded (i : Nat) :
    (p.preceded es).expireWorker i = (p.expireWorker i).preceded es := by
  unfold expireWorker
  rw [workers_preceded, settings_preceded, clock_preceded]
  split
  · split
    · exact finish_preceded es p _ _ _
    · rfl
  · rfl

theorem foldl_expireWorker_preceded (is : List Nat) :
    is.foldl expireWorker (p.preceded es) = (is.foldl expireWorker p).preceded es := by
  induction is generalizing p with
  | nil => rfl
  | cons i is ih => rw [List.foldl_cons, List.foldl_cons, expireWorker_preceded, ih]

theorem expireWorkers_preceded : (p.preceded es).expireWorkers = p.expireWorkers.preceded es := by
  unfold expireWorkers
  rw [workers_preceded, foldl_expireWorker_preceded, settle_preceded]

theorem expireWaiting_preceded (which : Waiter → Bool) :
    (p.preceded es).expireWaiting which = (p.expireWaiting which).preceded es :=
  notes_preceded es
    { p with waiting := (p.waiting.partition fun d => d.deadline ≤ p.clock && which d).2 } _

theorem expire_preceded : (p.preceded es).expire = p.expire.preceded es := by
  unfold expire
  rw [expireWorkers_preceded, expireWaiting_preceded]

theorem advance_preceded (n : Nat) : (p.preceded es).advance n = (p.advance n).preceded es := by
  induction n using Nat.strongRecOn generalizing p with
  | _ n ih =>
    have hquiet : (p.preceded es).quiet n = p.quiet n := rfl
    by_cases hn : n ≤ p.quiet n
    · rw [advance_of_le_quiet hn, advance_of_le_quiet (hquiet ▸ hn)]
      rfl
    · have hn := Nat.not_le.1 hn
      rw [advance_of_quiet_lt hn, advance_of_quiet_lt (hquiet ▸ hn), hquiet, ← ih _ (by omega),
        ← expire_preceded]
      rfl

end

/-! ### Ties -/

section

variable {p : Pool} {name : String}

/-- A call that waits for any worker leaves the line when it is dropped. -/
theorem cancel_of_waits
    (hw : ∀ w ∈ p.workers, runs name w = false ∧ queues name w = false) :
    (p.cancel name).2 = { p with waiting := p.waiting.filter (·.call.name != name) } := by
  have hruns : p.workers.findIdx? (runs name) = none :=
    List.findIdx?_eq_none_iff.2 fun w h => (hw w h).1
  have hqueues : p.workers.findIdx? (queues name) = none :=
    List.findIdx?_eq_none_iff.2 fun w h => (hw w h).2
  simp only [cancel, hruns, hqueues]
  split
  next => rfl
  next hnobody =>
    have hall : p.waiting.filter (·.call.name != name) = p.waiting :=
      List.filter_eq_self.2 (by simpa using hnobody)
    rw [hall]

/-- If a call gives up before the invocations end that end at the same moment, it ends as it would
without them, and everything else happens as if it had been dropped at that moment. -/
theorem expire_of_gives_up
    (hw : ∀ w ∈ p.workers, runs name w = false ∧ queues name w = false)
    (hdue : ∀ d ∈ p.waiting, d.call.name = name → d.deadline ≤ p.clock) :
    (p.expireWaiting (·.call.name == name)).expire =
      (p.step (.cancel name)).2.expire.preceded (p.effects ++
        (p.waiting.filter (·.call.name == name)).map fun d => .ended d.call unavailable) := by
  have hgone : ∀ d ∈ p.waiting, (decide (d.deadline ≤ p.clock) && d.call.name == name) =
      (d.call.name == name) := by
    intro d hd
    by_cases hname : d.call.name = name
    · simp [hname, hdue d hd hname]
    · simp [hname]
  have hcancel : (p.step (.cancel name)).2 =
      { p.unseen with waiting := p.waiting.filter (·.call.name != name) } :=
    cancel_of_waits (p := p.unseen) hw
  have hstays : p.waiting.filter (not ∘ fun d => decide (d.deadline ≤ p.clock) &&
      d.call.name == name) = p.waiting.filter (·.call.name != name) :=
    List.filter_congr fun d hd => congrArg not (hgone d hd)
  rw [hcancel, ← expire_preceded]
  refine congrArg expire ?_
  simp only [expireWaiting, List.partition_eq_filter_filter, hstays, List.filter_congr hgone]
  simp [preceded, notes, unseen, unavailable]

end

/-- An action forgets what was seen before. -/
theorem step_unseen (p : Pool) (a : Action) : p.unseen.step a = p.step a := rfl

/-! ### Time adds up -/

section

variable {p : Pool} {k m n : Nat}

theorem le_foldl_min (c : Nat) (ds : List Nat) (n : Nat) :
    k ≤ ds.foldl (fun m d => min m (d - c - 1)) n ↔ k ≤ n ∧ ∀ d ∈ ds, k ≤ d - c - 1 := by
  induction ds generalizing n with
  | nil => simp
  | cons d ds ih => rw [List.foldl_cons, ih, List.forall_mem_cons, Nat.le_min, and_assoc]

theorem le_quiet_iff : k ≤ p.quiet n ↔ k ≤ n ∧ ∀ t ∈ p.deadlines, k ≤ t - p.clock - 1 :=
  le_foldl_min _ _ _

/-- If time is up for somebody within `m` milliseconds, more of them do not matter. -/
theorem quiet_add_of_lt (h : p.quiet m < m) (n : Nat) : p.quiet (m + n) = p.quiet m := by
  have hle : ∀ k, k ≤ p.quiet (m + n) ↔ k ≤ p.quiet m := by
    intro k
    rw [le_quiet_iff, le_quiet_iff]
    refine ⟨fun ⟨_, hk⟩ => ⟨?_, hk⟩, fun ⟨hm, hk⟩ => ⟨Nat.le_add_right_of_le hm, hk⟩⟩
    refine Nat.le_of_not_lt fun hlt => Nat.not_le_of_lt h (le_quiet_iff.2 ⟨Nat.le_refl m, ?_⟩)
    exact fun t ht => Nat.le_trans (Nat.le_of_lt hlt) (hk t ht)
  exact Nat.le_antisymm ((hle _).1 (Nat.le_refl _)) ((hle _).2 (Nat.le_refl _))

/-- The quiet time that is left after part of it. -/
theorem quiet_add_of_le (h : m ≤ p.quiet m) (n : Nat) :
    ({ p with clock := p.clock + m } : Pool).quiet n + m = p.quiet (m + n) := by
  obtain ⟨-, hm⟩ := le_quiet_iff.1 h
  have hle : m ≤ p.quiet (m + n) := le_quiet_iff.2 ⟨Nat.le_add_right m n, hm⟩
  have hquiet : ∀ k, k ≤ ({ p with clock := p.clock + m } : Pool).quiet n ↔
      k + m ≤ p.quiet (m + n) := by
    intro k
    rw [le_quiet_iff, le_quiet_iff]
    refine and_congr (by omega) (forall₂_congr fun t ht => ?_)
    have := hm t ht
    change k ≤ t - (p.clock + m) - 1 ↔ _
    omega
  have hlower := (hquiet (p.quiet (m + n) - m)).2 (by omega)
  have hupper := (hquiet _).1 (Nat.le_refl _)
  omega

/-- Time adds up. -/
theorem advance_add (p : Pool) (m n : Nat) : p.advance (m + n) = (p.advance m).advance n := by
  induction m using Nat.strongRecOn generalizing p with
  | _ m ih =>
    by_cases hm : m ≤ p.quiet m
    · have hrest := quiet_add_of_le hm n
      rw [advance_of_le_quiet hm]
      by_cases hn : n ≤ ({ p with clock := p.clock + m } : Pool).quiet n
      · rw [advance_of_le_quiet hn, advance_of_le_quiet (by omega), Nat.add_assoc]
      · rw [advance_of_quiet_lt (Nat.not_le.1 hn), advance_of_quiet_lt (n := m + n) (by omega)]
        have hclock : p.clock + p.quiet (m + n) + 1 =
            p.clock + m + ({ p with clock := p.clock + m } : Pool).quiet n + 1 := by omega
        have hleft : m + n - p.quiet (m + n) - 1 =
            n - ({ p with clock := p.clock + m } : Pool).quiet n - 1 := by omega
        rw [hclock, hleft]
    · have hlt : p.quiet m < m := Nat.not_le.1 hm
      have hquiet := quiet_add_of_lt hlt n
      rw [advance_of_quiet_lt hlt, advance_of_quiet_lt (n := m + n) (by omega), hquiet,
        ← ih _ (by omega)]
      congr 1
      omega

end

theorem preceded_unseen (p : Pool) : p.unseen.preceded p.effects = p := by
  simp [preceded, unseen]

/-- Letting time pass in two parts shows the same as letting it pass at once. -/
theorem step_advance_add (p : Pool) (m n : Nat) : (p.step (.advance (m + n))).2 =
    ((p.step (.advance m)).2.step (.advance n)).2.preceded (p.step (.advance m)).2.effects := by
  calc (p.step (.advance (m + n))).2
      = (p.unseen.advance m).advance n := advance_add p.unseen m n
    _ = ((p.unseen.advance m).unseen.preceded (p.unseen.advance m).effects).advance n := by
        rw [preceded_unseen]
    _ = ((p.unseen.advance m).unseen.advance n).preceded (p.unseen.advance m).effects :=
        advance_preceded _ _ n

/-! ### Runs -/

/-- The moments of an action leave the same pool. -/
theorem after_momentsOf (p : Pool) (a : Action) :
    (p.after (momentsOf a)).unseen = (p.step a).2.unseen := by
  cases a with
  | advance n =>
    induction n with
    | zero => exact (congrArg unseen (advance_of_le_quiet (p := p.unseen) (Nat.zero_le _))).symm
    | succ n ih =>
      have hlast := congrArg (fun q : Pool => (q.step (.advance 1)).2.unseen) ih
      rw [momentsOf, List.replicate_succ', after_concat, step_advance_add]
      exact hlast
  | _ => rfl

/-- The moments of an action show the same. -/
theorem history_momentsOf (p : Pool) (a : Action) :
    history p (momentsOf a) = (p.step a).2.effects := by
  cases a with
  | advance n =>
    induction n with
    | zero => exact (congrArg effects (advance_of_le_quiet (p := p.unseen) (Nat.zero_le _))).symm
    | succ n ih =>
      have hlast := congrArg (fun q : Pool => (q.step (.advance 1)).2.effects)
        (after_momentsOf p (.advance n))
      rw [momentsOf, List.replicate_succ', history_concat, step_advance_add]
      exact congrArg₂ (· ++ ·) ih hlast
  | _ => exact List.append_nil _

section

variable {α : Type} {f : Pool → Action → List α} (hf : ∀ p a, f p.unseen a = f p a)
include hf

theorem along_unseen (p : Pool) (as : List Action) : along f p.unseen as = along f p as := by
  cases as with
  | nil => rfl
  | cons a as => exact congrArg (· ++ along f (p.step a).2 as) (hf p a)

/-- What the moments of each action give, the moments of a run give. -/
theorem along_moments (hmoments : ∀ p a, along f p (momentsOf a) = f p a) (p : Pool)
    (as : List Action) : along f p (moments as) = along f p as := by
  induction as generalizing p with
  | nil => rfl
  | cons a as ih =>
    have hsame : along f (p.after (momentsOf a)) (moments as) =
        along f (p.step a).2 (moments as) := by
      rw [← along_unseen hf, after_momentsOf, along_unseen hf]
    rw [moments, List.flatMap_cons, along_append, along, hmoments, ← ih]
    exact congrArg (f p a ++ ·) hsame

end

/-- What was seen before a run does not matter for what it leaves. -/
theorem unseen_after_congr {p q : Pool} (h : p.unseen = q.unseen) (as : List Action) :
    (p.after as).unseen = (q.after as).unseen := by
  cases as with
  | nil => exact h
  | cons a as => rw [after_cons, after_cons, ← step_unseen, h, step_unseen]

/-- What was seen before a run does not matter for what is seen in it. -/
theorem history_congr {p q : Pool} (h : p.unseen = q.unseen) (as : List Action) :
    history p as = history q as := by
  have hunseen : ∀ r : Pool, history r.unseen as = history r as := fun r =>
    along_unseen (fun _ _ => rfl) r as
  rw [← hunseen p, h, hunseen]

/-- A run taken millisecond by millisecond leaves the same pool. -/
theorem after_moments (p : Pool) (as : List Action) :
    (p.after (moments as)).unseen = (p.after as).unseen := by
  induction as generalizing p with
  | nil => rfl
  | cons a as ih =>
    rw [moments, List.flatMap_cons, after_append, after_cons, ← ih]
    exact unseen_after_congr (after_momentsOf p a) _

/-- A run taken millisecond by millisecond shows the same. -/
theorem history_moments (p : Pool) (as : List Action) : history p (moments as) = history p as :=
  along_moments (fun _ _ => rfl) history_momentsOf p as

/-- A run taken millisecond by millisecond makes the same calls. -/
theorem made_moments (p : Pool) (as : List Action) : made p (moments as) = made p as := by
  refine along_moments (fun p a => ?_) (fun p a => ?_) p as
  · cases a <;> rfl
  · cases a with
    | advance n =>
      induction n generalizing p with
      | zero => rfl
      | succ n ih => exact ih _
    | _ => exact List.append_nil _

/-- The timeline of a run shows what is seen in it. -/
theorem map_timeline (p : Pool) (as : List Action) :
    (timeline p as).map Prod.snd = history p as := by
  have hmap : ∀ (bs : List Action) (p : Pool),
      (along timed p bs).map Prod.snd = history p bs := by
    intro bs
    induction bs with
    | nil => exact fun _ => rfl
    | cons b bs ih =>
      intro p
      have hb : (timed p b).map Prod.snd = (p.step b).2.effects := by
        rw [timed, List.map_map]
        exact List.map_id _
      rw [along, List.map_append, ih, hb]
      rfl
  rw [timeline, hmap, history_moments]

theorem moments_append (as bs : List Action) : moments (as ++ bs) = moments as ++ moments bs :=
  List.flatMap_append

end FunctionHost.Pool
