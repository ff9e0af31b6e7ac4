import FunctionHost.Proofs.Pool.Exclusive
import FunctionHost.Proofs.Pool.Punctual
import Mathlib.Data.List.NodupEquivFin
import Mathlib.Order.WellFounded
/-!
# When a call begins at the latest

Every place of a call in a pool gives a time by which it begins at the latest: a call that waits for
any worker begins by its deadline, and the calls on a worker follow each other at most a worker
timeout apart, from the time at which the one in progress began. No change of the pool puts a call
off (`Paced.move`): a worker that ends a call early only brings the others forward, and a woken call
that waits again keeps its deadline.

Main statement: `Paced.step`, if every call has its place by a time that is right for it, this is so
after an action, as long as the calls that come in are right.
-/

namespace FunctionHost

open Relation

/-- When the first of the calls on a worker began, or can begin. -/
def Worker.since (now : Nat) (w : Worker) : Nat :=
  match w.hold with
  | .running inv => inv.started
  | _ => now

/-- Every call on a worker begins at a time that `B` allows at the latest. -/
structure Worker.Paced (B : Call → Nat → Prop) (now limit : Nat) (w : Worker) : Prop where
  /-- The invocation in progress began, and its time has not passed. -/
  started : ∀ inv, w.hold = .running inv → inv.started ≤ now ∧ now ≤ inv.started + limit
  /-- The calls follow each other. -/
  begins : ∀ (j : Nat) c, w.calls[j]? = some c → B c (w.since now + j * limit)

namespace Worker

section

variable {B : Call → Nat → Prop} {w : Worker} {c : Call} {now limit : Nat}

theorem since_of_not_running (h : ∀ inv, w.hold ≠ .running inv) : w.since now = now := by
  unfold Worker.since
  split
  next inv hinv => exact absurd hinv (h inv)
  next => rfl

variable (hB : ∀ c t u, t ≤ u → B c u → B c t)

include hB in
/-- A worker that passes on brings the calls that wait for it forward. -/
theorem Paced.passedOn (h : w.Paced B now limit) : w.passedOn.Paced B now limit := by
  refine ⟨fun inv hinv => absurd hinv (w.hold_passedOn_ne_running inv), fun j c hc => ?_⟩
  rw [w.calls_passedOn] at hc
  rw [since_of_not_running w.hold_passedOn_ne_running]
  cases hhold : w.hold with
  | free =>
    have hbegins := h.begins j c (by rwa [Worker.calls, hhold])
    rwa [Worker.since, hhold] at hbegins
  | granted d =>
    have hbegins := h.begins (j + 1) c (by rwa [Worker.calls, hhold])
    rw [Worker.since, hhold, Nat.succ_mul] at hbegins
    exact hB _ _ _ (by dsimp only; omega) hbegins
  | running inv =>
    have hbegins := h.begins (j + 1) c (by rwa [Worker.calls, hhold])
    have := (h.started inv hhold).2
    rw [Worker.since, hhold, Nat.succ_mul] at hbegins
    exact hB _ _ _ (by dsimp only; omega) hbegins

include hB in
/-- A queue from which some calls are dropped closes up. -/
theorem Paced.filter (h : w.Paced B now limit) (f : Call → Bool) :
    ({ w with queue := w.queue.filter f } : Worker).Paced B now limit := by
  refine ⟨h.started, fun j c hc => ?_⟩
  have hsub : ({ w with queue := w.queue.filter f } : Worker).calls.Sublist w.calls :=
    List.Sublist.append (List.Sublist.refl _) List.filter_sublist
  obtain ⟨g, hg⟩ := List.sublist_iff_exists_orderEmbedding_getElem?_eq.1 hsub
  have hbegins := h.begins (g j) c (by rw [← hg, hc])
  have hle : j ≤ g j := g.strictMono.le_apply
  exact hB _ _ _ (Nat.add_le_add_left (Nat.mul_le_mul_right limit hle) _) hbegins

/-- A call that joins a queue begins after those before it. -/
theorem Paced.queue (h : w.Paced B now limit)
    (hc : B c (w.since now + w.calls.length * limit)) :
    ({ w with queue := w.queue ++ [c] } : Worker).Paced B now limit := by
  have hcalls : ({ w with queue := w.queue ++ [c] } : Worker).calls = w.calls ++ [c] :=
    (List.append_assoc _ _ _).symm
  refine ⟨h.started, fun j d hd => ?_⟩
  rw [hcalls, List.getElem?_append] at hd
  split at hd
  next => exact h.begins j d hd
  next hj =>
    obtain ⟨hlt, hd⟩ := List.getElem?_eq_some_iff.1 hd
    have hlen : j = w.calls.length := by
      rw [List.length_singleton] at hlt
      omega
    rw [List.getElem_singleton] at hd
    rw [← hd, hlen]
    exact hc

end

end Worker

namespace Pool

/-- A call is in the line of those that wait for any worker, or has been woken. -/
def InLine (p : Pool) (d : Waiter) : Prop := d ∈ p.waiting ∨ .look d ∈ p.ready

/-- Every call begins at a time that `B` allows at the latest. -/
structure Paced (B : Call → Nat → Prop) (p : Pool) : Prop where
  /-- The calls on workers. -/
  workers : ∀ w ∈ p.workers, w.Paced B p.clock p.settings.workerTimeout
  /-- The calls in the line. -/
  line : ∀ d, p.InLine d → p.clock ≤ d.deadline ∧ B d.call d.deadline

section

variable {B : Call → Nat → Prop} {p q : Pool} {i : Nat} {w v : Worker} {c : Call}

/-! ### The line -/

theorem Comes.inLine (hc : Comes p i c q) {d : Waiter} (h : q.InLine d) : p.InLine d := by
  unfold InLine at *
  rw [hc.waiting] at h
  refine h.imp_right fun h => ?_
  cases hc with
  | granted hr _ _ =>
    rw [hr]
    exact List.mem_cons_of_mem _ h
  | woken hr _ _ =>
    rw [hr]
    exact List.mem_cons_of_mem _ h

/-- A worker that passes on wakes a call that waits, and the line stays as it was. -/
theorem inLine_of_passedOn (hwait : q.waiting = p.waiting.tail)
    (hready : q.ready = p.ready ++ v.grantTurns i ++ wokenTurns p.waiting) {d : Waiter}
    (h : q.InLine d) : p.InLine d := by
  unfold InLine at *
  rw [hwait, hready, List.mem_append, List.mem_append] at h
  rcases h with h | (h | h) | h
  · exact .inl (List.mem_of_mem_tail h)
  · exact .inr h
  · exact absurd h (look_not_mem_grantTurns v i d)
  · obtain ⟨e, he, heq⟩ := Option.map_eq_some_iff.1 (Option.mem_toList.1 h)
    cases heq
    exact .inl (List.mem_of_head? he)

variable (hB : ∀ c t u, t ≤ u → B c u → B c t)

/-! ### What a change does to the whole pool -/

/-- One worker changes, and nobody joins the line. -/
theorem Paced.set (h : p.Paced B) (hscene : q.scene = p.scene)
    (hws : q.workers = p.workers.set i v) (hv : v.Paced B p.clock p.settings.workerTimeout)
    (hline : ∀ d, q.InLine d → p.InLine d) : q.Paced B := by
  have hclock := clock_of_scene hscene
  have hsettings := settings_of_scene hscene
  refine ⟨?_, fun d hd => ?_⟩
  · rw [hws, hclock, hsettings]
    exact forall_mem_set h.workers hv i
  · rw [hclock]
    exact h.line d (hline d hd)

/-- The workers stay, and nobody joins the line. -/
theorem Paced.same (h : p.Paced B) (hscene : q.scene = p.scene) (hws : q.workers = p.workers)
    (hline : ∀ d, q.InLine d → p.InLine d) : q.Paced B := by
  have hclock := clock_of_scene hscene
  have hsettings := settings_of_scene hscene
  refine ⟨?_, fun d hd => ?_⟩
  · rw [hws, hclock, hsettings]
    exact h.workers
  · rw [hclock]
    exact h.line d (hline d hd)

theorem Paced.unseen (h : p.Paced B) : p.unseen.Paced B := ⟨h.workers, h.line⟩

theorem Paced.at (h : p.Paced B) (hw : p.workers[i]? = some w) :
    w.Paced B p.clock p.settings.workerTimeout := h.workers w (List.mem_of_getElem? hw)

/-- A worker with the same calls changes. -/
theorem Paced.setSame (h : p.Paced B) (hw : p.workers[i]? = some w)
    (hws : q.workers = p.workers.set i v) (hhold : v.hold = w.hold) (hqueue : v.queue = w.queue)
    (hscene : q.scene = p.scene) (hline : ∀ d, q.InLine d → p.InLine d) : q.Paced B := by
  have hcalls : v.calls = w.calls := by rw [Worker.calls, Worker.calls, hhold, hqueue]
  have hsince : v.since p.clock = w.since p.clock := by rw [Worker.since, Worker.since, hhold]
  refine h.set hscene hws ⟨fun inv hinv => (h.at hw).started inv (hhold ▸ hinv), ?_⟩ hline
  intro j c hc
  rw [hsince]
  exact (h.at hw).begins j c (hcalls ▸ hc)

section

include hB

/-- The end of a call on a worker, which may have changed before. -/
theorem Paced.passedOn (h : p.Paced B) (hv : v.Paced B p.clock p.settings.workerTimeout)
    (hscene : q.scene = p.scene) (hws : q.workers = p.workers.set i v.passedOn)
    (hwait : q.waiting = p.waiting.tail)
    (hready : q.ready = p.ready ++ v.grantTurns i ++ wokenTurns p.waiting) : q.Paced B :=
  h.set hscene hws (hv.passedOn hB) fun _ => inLine_of_passedOn hwait hready

/-- A call that has its turn begins in time. -/
theorem Paced.comes (h : p.Paced B) (hs : p.Sound) (hc : Comes p i c q)
    (hw : p.workers[i]? = some w) :
    (w.seizedBy c p.clock).Paced B p.clock p.settings.workerTimeout := by
  refine ⟨fun inv hinv => ?_, fun j d hd => ?_⟩
  · cases hinv
    exact ⟨Nat.le_refl _, Nat.le_add_right _ _⟩
  · have hsince : (w.seizedBy c p.clock).since p.clock = p.clock := rfl
    have hcalls : (w.seizedBy c p.clock).calls = c :: w.queue := rfl
    rw [hsince]
    rw [hcalls] at hd
    cases hc with
    | granted hr hv hg =>
      rw [Option.some.inj (hw.symm.trans hv)] at hd
      have hbegins := (h.at hv).begins j d (by rwa [Worker.calls, hg])
      rwa [Worker.since, hg] at hbegins
    | @woken ts e hr hf he =>
      obtain ⟨v, hv, hfree⟩ := isFree_of_freeWorker? hf
      rw [Option.some.inj (hw.symm.trans hv), (hs.at hv).queue (isFree_iff.1 hfree).2] at hd
      have hmem : p.InLine e := .inr (by rw [hr]; exact List.mem_cons_self)
      obtain ⟨hdeadline, hbegins⟩ := h.line e hmem
      cases j with
      | zero =>
        cases hd
        rw [Nat.zero_mul, ← he]
        exact hB _ _ _ hdeadline hbegins
      | succ j => simp at hd

theorem Paced.stir (hs : p.Sound) (hm : Stir p q) (hclock : q.clock = p.clock)
    (h : p.Paced B) : q.Paced B := by
  cases hm with
  | @begins q i c w hc hw hr =>
    have hw' := hw
    rw [hc.workers] at hw'
    have hws := hc.workers_seize w
    rw [clock_of_scene hc.scene] at hws
    exact h.set hc.scene hws (h.comes hB hs hc hw') fun d => hc.inLine
  | @fails q i c w hc hw hr =>
    have hw' := hw
    rw [hc.workers] at hw'
    refine h.set ((scene_finish _ _ _ _).trans hc.scene) (hc.workers_fail hw _)
      ((h.at hw').passedOn hB) fun d hd => hc.inLine ?_
    exact inLine_of_passedOn (p := q.note _) (waiting_finish (p := q.note _) hw _ _)
      (ready_finish (p := q.note _) hw _ _) hd
  | idles hr hn =>
    refine h.same rfl rfl fun d hd => hd.imp_right fun hd => ?_
    rw [hr]
    exact List.mem_cons_of_mem _ hd
  | @waits d ts hr hf hd ht =>
    refine h.same rfl rfl fun e he => ?_
    unfold InLine at *
    rw [hr]
    rcases he with he | he
    · rcases List.mem_append.1 he with he | he
      · exact .inl he
      · rw [List.mem_singleton.1 he]
        exact .inr List.mem_cons_self
    · exact .inr (List.mem_cons_of_mem _ he)
  | turnsAway b hr hf hd =>
    refine h.same rfl rfl fun d hd => hd.imp_right fun hd => ?_
    rw [hr]
    exact List.mem_cons_of_mem _ hd
  | @reads i w inv hw hinv hd =>
    refine h.set rfl rfl ⟨fun inv' hinv' => ?_, fun j c hc => ?_⟩ fun _ => id
    · cases hinv'
      exact (h.at hw).started inv hinv
    · have hbegins := (h.at hw).begins j c (by rwa [Worker.calls, hinv])
      rwa [Worker.since, hinv] at hbegins
  | @completes i w inv hw hinv hd =>
    have hget := getElem?_setWorker
      (p := (p.notes ((inv.decoder.run w.unread).complaints.map .complained)).note
        (.completed i inv.call (inv.decoder.run w.unread).decoder.reply))
      hw { w with unread := (inv.decoder.run w.unread).rest }
    exact h.passedOn hB (v := { w with unread := (inv.decoder.run w.unread).rest })
      ⟨(h.at hw).started, (h.at hw).begins⟩ (scene_finish _ _ _ _)
      (workers_finish_notes hw _ _ _ _ _) (waiting_finish hget _ _) (ready_finish hget _ _)
  | @closes i w inv hw hinv ha hu =>
    have hget := getElem?_setWorker hw { w with terminated := true }
    exact h.passedOn hB (v := { w with terminated := true })
      ⟨(h.at hw).started, (h.at hw).begins⟩ (scene_finish _ _ _ _)
      (workers_finish_setWorker hw _ _ _) (waiting_finish hget _ _) (ready_finish hget _ _)
  | expires hw hinv ht =>
    exact h.passedOn hB (h.at hw) (scene_finish _ _ _ _) (workers_finish hw _ _)
      (waiting_finish hw _ _) (ready_finish hw _ _)
  | givesUp =>
    refine h.same rfl rfl fun d hd => hd.imp_left fun hd => ?_
    rw [waiting_expireWaiting] at hd
    exact List.mem_of_mem_filter hd
  | @ticks n hn =>
    obtain rfl : n = 0 := by
      dsimp only at hclock
      omega
    exact h
  | errs data hw => exact h.setSame hw rfl rfl rfl rfl fun _ => id
  | deafens hw => exact h.setSame hw rfl rfl rfl rfl fun _ => id

/-- What takes no time puts no call off. -/
theorem Paced.move (hs : p.Sound) (hm : Move p q) (hclock : q.clock = p.clock) (h : p.Paced B) :
    q.Paced B := by
  cases hm with
  | stirs hm => exact h.stir hB hs hm hclock
  | wakesAll =>
    refine h.same rfl rfl fun d hd => ?_
    rcases hd with hd | hd
    · cases hd
    · rcases List.mem_append.1 hd with hd | hd
      · exact .inr hd
      · obtain ⟨e, he, heq⟩ := List.mem_map.1 hd
        cases heq
        exact .inl he
  | dies hw ha => exact h.setSame hw rfl rfl rfl rfl fun _ => id
  | reports => exact h.same rfl rfl fun _ => id
  | marks hw ha => exact h.setSame hw rfl rfl rfl rfl fun _ => id

theorem Paced.moves (h : p.Paced B) (hs : p.Sound) (hm : Moves p q) (hclock : q.clock = p.clock) :
    q.Paced B := by
  refine (Moves.still (P := fun p => p.Sound ∧ p.Paced B) (fun p q hm hc hp => ?_) hm hclock
    ⟨hs, h⟩).2
  exact ⟨hp.1.move hm, hp.2.move hB hp.1 hm hc⟩

end

/-! ### Calls that come in -/

/-- A call that looks for a worker does so until its deadline. -/
theorem Paced.looks (h : p.Paced B) (hc : B c (p.clock + p.settings.dispatchTimeout)) :
    ({ p with ready := p.ready ++
      [.look ⟨c, p.clock + p.settings.dispatchTimeout⟩] } : Pool).Paced B := by
  refine ⟨h.workers, fun d hd => ?_⟩
  rcases hd with hd | hd
  · exact h.line d (.inl hd)
  · rcases List.mem_append.1 hd with hd | hd
    · exact h.line d (.inr hd)
    · cases List.mem_singleton.1 hd
      exact ⟨Nat.le_add_right _ _, hc⟩

/-- A call that is granted a free worker begins now. -/
theorem Paced.granted (h : p.Paced B) (hs : p.Sound) (hw : p.workers[i]? = some w)
    (hf : w.hold = .free) (hc : B c p.clock) :
    ({ p.setWorker i { w with hold := .granted c } with
      ready := p.ready ++ [.start i] } : Pool).Paced B := by
  refine h.set rfl rfl ⟨nofun, fun j d hd => ?_⟩ fun d hd => hd.imp_right fun hd => ?_
  · rw [Worker.calls, (hs.at hw).queue hf] at hd
    cases j with
    | zero =>
      cases hd
      rw [Nat.zero_mul]
      exact hc
    | succ j => simp [Hold.calls] at hd
  · exact (List.mem_append.1 hd).resolve_right (by simp)

/-- A call that joins the queue of a worker begins after those before it. -/
theorem Paced.queued (h : p.Paced B) (hw : p.workers[i]? = some w)
    (hc : B c (w.since p.clock + w.calls.length * p.settings.workerTimeout)) :
    (p.setWorker i { w with queue := w.queue ++ [c] }).Paced B :=
  h.set rfl rfl ((h.at hw).queue hc) fun _ => id

theorem Paced.enters (h : p.Paced B) (hs : p.Sound) (he : Enters p c q) (hc : ∀ t, B c t) :
    q.Paced B := by
  cases he with
  | looks => exact h.looks (hc _)
  | granted hw hf => exact h.granted hs hw (isFree_iff.1 hf).2 (hc _)
  | queued hw ht hf => exact h.queued hw (hc _)
  | rejected hw ho => exact h.same rfl rfl fun _ => id

include hB in
theorem Paced.does {a : Action} (h : p.Paced B) (hs : p.Sound) (hd : Does p a q)
    (hnew : ∀ c ∈ madeBy p a, ∀ t, B c t) : q.Paced B := by
  have h := h.unseen
  cases hd with
  | @enters c _ hmade _ _ he =>
    exact h.enters hs he (hnew c (by rw [hmade]; exact List.mem_singleton_self _))
  | drops _ _ _ hd =>
    cases hd with
    | running hw hinv hn =>
      exact h.passedOn hB (h.at hw) (scene_release _ _) (workers_release hw) (waiting_release hw)
        (ready_release hw)
    | queued hw hq => exact h.set rfl rfl ((h.at hw).filter hB _) fun _ => id
    | waiting hw =>
      exact h.same rfl rfl fun d hd => hd.imp_left fun hd => List.mem_of_mem_filter hd
  | prints _ _ _ _ _ hp =>
    cases hp with
    | feeds hw ha => exact h.setSame hw rfl rfl rfl rfl fun _ => id
  | other _ _ _ => exact h

/-! ### Time passes -/

/-- In a settled pool what is on a worker begins with an invocation. -/
theorem running_of_calls (hs : p.Sound) (ht : p.HasTurns) (hr : p.ready = [])
    (hw : p.workers[i]? = some w) {j : Nat} (hc : w.calls[j]? = some c) :
    ∃ inv, w.hold = .running inv ∧ (inv.call :: w.queue)[j]? = some c := by
  have hmem := List.mem_of_getElem? hw
  have hfree : w.hold ≠ .free := fun hf => by
    rw [Worker.calls, hf, (hs.at hw).queue hf] at hc
    cases hc
  obtain ⟨inv, hinv⟩ := running_of_not_free ht hr hmem hfree
  refine ⟨inv, hinv, ?_⟩
  rwa [Worker.calls, hinv] at hc

/-- In a millisecond for which nobody is overdue no call is put off. -/
theorem Paced.tick (h : p.Paced B) (hp : p.Regular) (hr : p.ready = []) (hpunctual : p.Punctual) :
    ({ p with clock := p.clock + 1 } : Pool).Paced B := by
  refine ⟨fun w hw => ?_, fun d hd => ?_⟩
  · obtain ⟨i, hi⟩ := List.mem_iff_getElem?.1 hw
    refine ⟨fun inv hinv => ?_, fun j c hc => ?_⟩
    · have hstarted := (h.at hi).started inv hinv
      have := hpunctual.inTime i w hi inv hinv
      exact ⟨Nat.le_succ_of_le hstarted.1, this⟩
    · obtain ⟨inv, hinv, -⟩ := running_of_calls hp.sound hp.turns hr hi hc
      have hbegins := (h.at hi).begins j c hc
      rwa [Worker.since, hinv] at hbegins ⊢
  · rcases hd with hd | hd
    · exact ⟨hpunctual.hopeful d hd, (h.line d (.inl hd)).2⟩
    · rw [show ({ p with clock := p.clock + 1 } : Pool).ready = [] from hr] at hd
      cases hd

include hB in
/-- No action of a millisecond at most puts a call off. -/
theorem Paced.step (h : p.Paced B) (hp : p.Regular) (hr : p.ready = []) (hpunctual : p.Punctual)
    {a : Action} (ha : ∀ n, a = .advance n → n = 1) (hnew : ∀ c ∈ madeBy p a, ∀ t, B c t) :
    (p.step a).2.Paced B := by
  by_cases htime : a = .advance 1
  · subst htime
    have htick := h.unseen.tick hp.unseen hr
      ⟨hpunctual.inTime, hpunctual.hopeful⟩
    show (p.unseen.advance 1).Paced B
    by_cases hq : 1 ≤ p.unseen.quiet 1
    · rw [advance_of_le_quiet hq]
      exact htick
    · have hzero : p.unseen.quiet 1 = 0 := by omega
      rw [advance_of_quiet_lt (Nat.not_le.1 hq), hzero, advance_of_le_quiet (Nat.zero_le _)]
      exact htick.moves hB hp.sound (moves_of_stirs (expire_stirs _))
        (clock_of_scene (scene_expire _))
  · have hzero : a.takes = 0 := by
      cases a with
      | advance n => exact absurd (congrArg Action.advance (ha n rfl)) htime
      | _ => rfl
    have hscene := scene_step p a
    rw [hzero, Nat.add_zero] at hscene
    obtain ⟨⟨q, hd, hm, -⟩, -⟩ := step_cases p a hr
    exact (h.does hB hp.sound hd hnew).moves hB (hd.sound hp.sound) hm
      (clock_of_scene (hscene.trans hd.scene.symm))

end

end Pool

end FunctionHost
