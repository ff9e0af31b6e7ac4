import FunctionHost.Proofs.Pool.Alike
import FunctionHost.Proofs.Pool.Wakeups
/-!
# Calls that come to nothing

A call comes to nothing at once if its statements cannot be written, if its worker is terminated, if
it is refused, or if it is answered 503 without a worker. Nothing is left of it but a wake-up: a call
that cannot be written has had the worker for a moment, and the worker's release wakes the next
waiting call. But a worker was free, so nobody waits, and the wake-up is kept.

Main statement: `leaves_no_trace`, all workers and all other calls are as they were before such a
call, and whatever is done afterwards is answered as if the call had never been made.
-/

namespace FunctionHost.Pool

/-- A call ends, and it has come to nothing. A 503 counts if it is no reply that was read from an
interpreter. -/
def ComesToNothing (es : List Effect) (c : Call) : Prop :=
  ∃ o, .ended c o ∈ es ∧ ((∃ i, o = .failed (.write i)) ∨ (∃ i, o = .failed (.terminated i)) ∨
    o = .refused ∨ o = unavailable ∧ ∀ i r, .completed i c r ∉ es)

section

variable {p : Pool} {i : Nat} {w : Worker} {c : Call}

/-! ### A call on a free worker -/

/-- An end for which nobody waits sets nothing off. -/
theorem ready_finish_of_alone (hw : p.workers[i]? = some w) {v : Worker} (hqueue : v.queue = [])
    (hwait : p.waiting = []) (c : Call) (o : Outcome) :
    ((p.setWorker i v).finish i c o).ready = p.ready := by
  rw [ready_finish (getElem?_setWorker hw v), waiting_setWorker, hwait, Worker.grantTurns, hqueue]
  simp [wokenTurns]

/-- How an invocation ends that reads: with a reply that it has read, because the output has ended,
or because its time is up. -/
def EndsReading (i : Nat) (fs : List Effect) : Prop :=
  ∀ c o, .ended c o ∈ fs →
    (∃ r, o = .reply r ∧ .completed i c r ∈ fs) ∨ o = .failed (.closed i) ∨ o = timedOut

/-- An invocation for which nobody waits reads and sets nothing off. -/
theorem proceed_of_alone {inv : Invocation} (hw : p.workers[i]? = some w)
    (hinv : w.hold = .running inv) (hqueue : w.queue = []) (hwait : p.waiting = []) :
    (p.proceed i).ready = p.ready ∧
      ∃ fs, (p.proceed i).effects = p.effects ++ fs ∧ EndsReading i fs := by
  set es : List Effect := (inv.decoder.run w.unread).complaints.map .complained with hes
  have ends : ∀ (v : Worker) (o : Outcome), v.queue = [] → o = .failed (.closed i) ∨ o = timedOut →
      p.proceed i = ((p.notes es).setWorker i v).finish i inv.call o →
      (p.proceed i).ready = p.ready ∧
        ∃ fs, (p.proceed i).effects = p.effects ++ fs ∧ EndsReading i fs := by
    intro v o hv ho heq
    rw [heq]
    refine ⟨ready_finish_of_alone (p := p.notes es) hw hv hwait _ _, es ++ [.ended inv.call o], ?_,
      fun c o' he => .inr ?_⟩
    · rw [effects_finish_setWorker (p := p.notes es) hw, effects_notes, List.append_assoc]
    · obtain ⟨-, rfl⟩ : c = inv.call ∧ o' = o := by simpa [hes] using he
      exact ho
  rcases proceed_cases hw hinv with heq | ⟨-, heq⟩ | heq | heq
  · rw [heq]
    refine ⟨ready_finish_of_alone (p := (p.notes es).note _) hw (by exact hqueue) hwait _ _, _,
      effects_finish_notes hw _ _ _ _ _, fun c o he => .inl ?_⟩
    obtain ⟨rfl, rfl⟩ :
        c = inv.call ∧ o = .reply (inv.decoder.run w.unread).decoder.reply := by simpa using he
    exact ⟨_, rfl, by simp⟩
  · exact ends _ _ (by exact hqueue) (.inl rfl) heq
  · exact ends _ _ (by exact hqueue) (.inr rfl) heq
  · rw [heq]
    exact ⟨rfl, es, rfl, fun c o he => by simp [hes] at he⟩

/-- A call that has been written does not come to nothing. -/
theorem not_comesToNothing_of_endsReading {es fs : List Effect} (h : EndsReading i fs)
    (hes : ∀ c o, .ended c o ∉ es) : ¬ ComesToNothing (es ++ fs) c := by
  rintro ⟨o, he, ho⟩
  have he : .ended c o ∈ fs := (List.mem_append.1 he).resolve_left (hes c o)
  rcases h c o he with ⟨r, rfl, hr⟩ | rfl | rfl
  · rcases ho with ⟨_, ho⟩ | ⟨_, ho⟩ | ho | ⟨-, hno⟩
    · cases ho
    · cases ho
    · cases ho
    · exact hno i r (List.mem_append_right _ hr)
  · rcases ho with ⟨_, ho⟩ | ⟨_, ho⟩ | ho | ⟨ho, -⟩ <;> cases ho
  · rcases ho with ⟨_, ho⟩ | ⟨_, ho⟩ | ho | ⟨ho, -⟩
    · cases ho
    · cases ho
    · cases ho
    · exact absurd ho (by decide +kernel)

/-- A call that cannot be written leaves a wake-up. -/
theorem start_of_deaf (hw : p.workers[i]? = some w) (hfree : w.hold = .free)
    (hqueue : w.queue = []) (hread : w.reading = false) (hwait : p.waiting = []) (c : Call) :
    p.start i c = { p with
      permit := true
      effects := p.effects ++ [.obtained i c, .ended c (.failed (.write i))] } := by
  have hback : w.passedOn = w := by
    unfold Worker.passedOn
    rw [hqueue]
    dsimp only
    rw [← hqueue, ← hfree]
  have hgrants : w.grantTurns i = [] := by rw [Worker.grantTurns, hqueue]
  set q := (p.note (.obtained i c)).note (.ended c (.failed (.write i))) with hq
  have hqw : q.workers[i]? = some w := hw
  have hstart : p.start i c = q.release i := by
    unfold start
    simp only [hw, hread, Bool.false_eq_true, if_false]
    rfl
  rw [hstart, release_eq hqw, hback, setWorker_self hqw, hgrants, List.append_nil, wake]
  simp [hq, hwait, note]

/-! ### What a call that comes to nothing leaves -/

theorem not_comesToNothing_nil (c : Call) : ¬ ComesToNothing [] c := by
  rintro ⟨o, he, -⟩
  cases he

section

variable (hr : p.ready = []) (he : p.effects = [])
include hr he

/-- A call on a free worker for which nobody waits comes to nothing only if it cannot be written. -/
theorem alike_of_start (hs : p.Sound) (hwait : p.waiting = []) (hw : p.workers[i]? = some w)
    (hfree : w.isFree = true) (hn : ComesToNothing (p.start i c).settle.effects c) :
    Alike p.unseen (p.start i c).settle.unseen := by
  have hhold : w.hold = .free := (isFree_iff.1 hfree).2
  have hqueue : w.queue = [] := (hs.at hw).queue hhold
  cases hread : w.reading with
  | false =>
    have hstart := start_of_deaf hw hhold hqueue hread hwait c
    rw [settle_of_nil (by rw [hstart]; exact hr), hstart]
    exact ⟨true, rfl⟩
  | true =>
    have hstart : p.start i c = (p.seize i w c).proceed i := by
      unfold start
      simp only [hw, hread, if_true]
    have hseized : (p.seize i w c).workers[i]? = some (w.seizedBy c p.clock) := by
      rw [workers_seize, List.getElem?_set_self (List.getElem?_eq_some_iff.1 hw).1]
    obtain ⟨hready, fs, heffects, hends⟩ := proceed_of_alone hseized rfl hqueue hwait
    rw [hstart, settle_of_nil (hready.trans hr), heffects, effects_seize, he] at hn
    exact absurd hn (not_comesToNothing_of_endsReading hends (by simp))

/-- A call that looks for a worker comes to nothing if it cannot be written to a free one, or if it
is turned away. -/
theorem alike_of_look (hs : p.Sound) (hh : p.Heard) {d : Waiter}
    (hn : ComesToNothing (p.look d).settle.effects d.call) :
    Alike p.unseen (p.look d).settle.unseen := by
  cases hf : p.freeWorker? with
  | some i =>
    obtain ⟨w, hw, hfree⟩ := isFree_of_freeWorker? hf
    have hwait := waiting_eq_nil_of_isFree hh hr (List.mem_of_getElem? hw) hfree
    have hlook : p.look d = p.start i d.call := by simp only [look, hf]
    rw [hlook] at hn ⊢
    exact alike_of_start hr he hs hwait hw hfree hn
  | none =>
    simp only [look, hf] at hn ⊢
    split
    · rw [settle_of_nil (p := p.note _) hr]
      exact ⟨p.permit, rfl⟩
    · split
      · rw [settle_of_nil (p := note { p with permit := false } _) hr]
        exact ⟨false, rfl⟩
      next hdead hlate =>
        have hwaits : p.ready = [] := hr
        rw [if_neg hdead, if_neg hlate, settle_of_nil
          (p := { p with permit := false, waiting := p.waiting ++ [d] }) hwaits] at hn
        exact absurd (he ▸ hn) (not_comesToNothing_nil d.call)

/-- A call on a worker comes to nothing if it cannot be written or if the worker is terminated. -/
theorem alike_of_handle (hs : p.Sound) (hh : p.Heard)
    (hn : ComesToNothing (p.handle i c).effects c) : Alike p.unseen (p.handle i c).unseen := by
  unfold handle at hn ⊢
  cases hw : p.workers[i]? with
  | none => exact Alike.refl _
  | some w =>
    simp only [hw] at hn ⊢
    split
    · exact ⟨p.permit, rfl⟩
    next hlive =>
      rw [if_neg hlive] at hn
      split
      next hfree =>
        rw [if_pos hfree] at hn
        have hfree : w.isFree = true := isFree_iff.2 ⟨by simpa using hlive, hfree⟩
        exact alike_of_start hr he hs
          (waiting_eq_nil_of_isFree hh hr (List.mem_of_getElem? hw) hfree) hw hfree hn
      next htaken =>
        rw [if_neg htaken] at hn
        exact absurd (he ▸ hn) (not_comesToNothing_nil c)

/-- A call on a worker, only if it is free, comes to nothing if it cannot be written or is
refused. -/
theorem alike_of_tryHandle (hs : p.Sound) (hh : p.Heard)
    (hn : ComesToNothing (p.tryHandle i c).effects c) :
    Alike p.unseen (p.tryHandle i c).unseen := by
  unfold tryHandle at hn ⊢
  cases hw : p.workers[i]? with
  | none => exact Alike.refl _
  | some w =>
    simp only [hw] at hn ⊢
    split
    next hfree =>
      rw [if_pos hfree] at hn
      exact alike_of_start hr he hs
        (waiting_eq_nil_of_isFree hh hr (List.mem_of_getElem? hw) hfree) hw hfree hn
    · exact ⟨p.permit, rfl⟩

end

end

/-- A call is made on the pool, or on a worker in one of two ways. -/
theorem eq_of_mem_madeBy {p : Pool} {a : Action} {c : Call} (h : c ∈ madeBy p a) :
    a = .dispatch c ∨ (∃ i, a = .handle i c) ∨ ∃ i, a = .tryHandle i c := by
  cases a with
  | dispatch d =>
    obtain rfl := List.mem_singleton.1 h
    exact .inl rfl
  | handle i d =>
    obtain rfl := List.mem_singleton.1 (List.mem_ite_nil_right.1 h).2
    exact .inr (.inl ⟨i, rfl⟩)
  | tryHandle i d =>
    obtain rfl := List.mem_singleton.1 (List.mem_ite_nil_right.1 h).2
    exact .inr (.inr ⟨i, rfl⟩)
  | _ => cases h

/-- A call that comes to nothing in the action that makes it leaves an alike pool. -/
theorem alike_step {p : Pool} {a : Action} {c : Call} (hs : p.Sound) (hh : p.Heard)
    (hr : p.ready = []) (hmade : c ∈ madeBy p a) (hn : ComesToNothing (p.step a).2.effects c) :
    Alike p.unseen (p.step a).2.unseen := by
  have hs : p.unseen.Sound := hs
  have hh : p.unseen.Heard := hh
  obtain rfl | ⟨i, rfl⟩ | ⟨i, rfl⟩ := eq_of_mem_madeBy hmade
  · have hlook : (p.step (.dispatch c)).2 = _ := dispatch_eq_look (p := p.unseen) hr c
    rw [hlook] at hn ⊢
    exact alike_of_look (p := p.unseen) hr rfl hs hh hn
  · exact alike_of_handle (p := p.unseen) hr rfl hs hh hn
  · exact alike_of_tryHandle (p := p.unseen) hr rfl hs hh hn

/-- A call that comes to nothing in the action that makes it leaves no trace, whatever was done to
the gateway before: the workers, the waiting calls and the time are as before, the pool is settled,
and whatever is done afterwards is answered and seen as if the call had never been made. -/
theorem leaves_no_trace (s : PoolSettings) (n : Nat) (g : Gateway) (hg : g.pool = launched s n)
    (ds : List Gateway.Deed) (a : Action) (c : Call) (hmade : c ∈ madeBy (g.after ds).pool a)
    (hn : ComesToNothing ((g.after ds).step a).2.pool.effects c) :
    let before := g.after ds
    let left := (before.step a).2
    (left.pool.workers = before.pool.workers ∧ left.pool.waiting = before.pool.waiting ∧
      left.pool.clock = before.pool.clock ∧ left.pool.settings = before.pool.settings ∧
      left.pool.ready = []) ∧
    ∀ es, left.sights es = before.sights es := by
  intro before left
  have hpool := g.pool_after ds
  rw [hg] at hpool
  set as := g.actions ds
  have hs : before.pool.unseen.Sound := by
    rw [hpool]
    exact sound_after s n as
  have hh : before.pool.unseen.Heard := by
    rw [hpool]
    exact heard_after s n as
  have hr : before.pool.unseen.ready = [] := by
    rw [hpool]
    exact ready_after (p := launched s n) rfl as
  have halike : Alike before.pool.unseen left.pool.unseen := alike_step hs hh hr hmade hn
  exact ⟨⟨halike.workers, halike.waiting, halike.clock, halike.settings, halike.ready.trans hr⟩,
    fun es => (Gateway.sights_eq_of_alike (g := before) halike es).symm⟩

/-- A call to an interpreter that does not read cannot be written. It leaves a wake-up that was not
there before, and no other trace. -/
theorem leaves_no_trace_of_deaf :
    let c := Call.plain "a"
    let before := Gateway.single.after [.acts (.closeStdin 0)]
    let left := (before.step (.dispatch c)).2
    (Gateway.single.pool = launched .plain 1 ∧ c ∈ madeBy before.pool (.dispatch c) ∧
      ComesToNothing left.pool.effects c ∧ before.pool.permit = false ∧ left.pool.permit = true) ∧
    (left.pool.workers = before.pool.workers ∧ left.pool.waiting = before.pool.waiting ∧
      left.pool.clock = before.pool.clock ∧ left.pool.settings = before.pool.settings ∧
      left.pool.ready = []) ∧
    ∀ es, left.sights es = before.sights es := by
  intro c before left
  have hmade : c ∈ madeBy before.pool (.dispatch c) := List.mem_singleton_self c
  have hn : ComesToNothing left.pool.effects c :=
    ⟨.failed (.write 0), by decide +kernel, .inl ⟨0, rfl⟩⟩
  exact ⟨⟨rfl, hmade, hn, by decide +kernel, by decide +kernel⟩,
    leaves_no_trace .plain 1 Gateway.single rfl [.acts (.closeStdin 0)] (.dispatch c) c hmade hn⟩

end FunctionHost.Pool
