import FunctionHost.Gateway
import FunctionHost.Proofs.Pool.Exclusive
import FunctionHost.Proofs.Pool.Retirement
/-!
# Pools that are torn down

A teardown terminates the workers one after another. A waiting call that the end of another call
wakes meanwhile may find a worker that still lives and wait again; but in the end every worker is
terminated, all that wait are woken once more, and none of them waits again (`deserted_stopAll`).
What is left is a pool that is over (`Over`): its workers are retired and nobody waits. It stays so,
and does no more than turn calls away.

Main statement: `nothing_left`, after a teardown no call is pending, and whatever is done, every
call made later is turned away at once and nothing is written.
-/

namespace FunctionHost.Pool

open FunctionHost.Http

/-- A settled pool that has no calls and takes none any more. -/
structure Over (p : Pool) : Prop where
  /-- The workers are terminated and have no calls. -/
  retired : ∀ w ∈ p.workers, w.Retired
  /-- No call waits. -/
  waiting : p.waiting = []
  /-- Nothing is set off. -/
  ready : p.ready = []

section

variable {p : Pool} {i : Nat} {w : Worker}

/-! ### A teardown leaves a pool that is over -/

/-- After a teardown every worker is terminated, and no call waits. -/
theorem deserted_stopAll (h : p.Regular) : p.stopAll.Deserted := by
  set q := (List.range p.workers.length).foldl stop p
  have hroused : q.roused.Regular := (h.foldl_stop _).roused
  have hdead : q.roused.Dead := dead_foldl_stop h
  refine ⟨hdead.stirs hroused.sound (settle_stirs _), ?_⟩
  exact (waiting_settle_of_dead hroused hdead).trans List.drop_nil

theorem Deserted.after (h : p.Deserted) (hr : p.ready = []) (as : List Action) :
    (p.after as).Deserted :=
  after_induction (motive := fun _ q => q.Deserted) h
    (fun as a hq => hq.step (ready_after hr as) a) as

theorem Deserted.isOver (h : p.Deserted) (hp : p.Regular) (hr : p.ready = []) : p.Over := by
  refine ⟨fun w hw => ?_, h.waiting, hr⟩
  obtain ⟨i, hi⟩ := List.mem_iff_getElem?.1 hw
  exact hp.retired hr hi (h.dead w hw)

/-! ### A pool that is over has no calls -/

theorem Over.retiredAt (h : p.Over) (i : Nat) : RetiredAt i p :=
  fun w hw => h.retired w (List.mem_of_getElem? hw)

theorem Over.isBusy (h : p.Over) (hw : w ∈ p.workers) : w.isBusy = false := by
  unfold Worker.isBusy
  rw [(h.retired w hw).hold]

theorem Over.calls (h : p.Over) : p.calls = [] := by
  have hnone : callsOn p.workers = [] := by
    refine List.flatMap_eq_nil_iff.2 fun w hw => ?_
    rw [Worker.calls, (h.retired w hw).hold, (h.retired w hw).queue]
    rfl
  simp [Pool.calls, hnone, h.waiting, h.ready]

theorem Over.pending (h : p.Over) : p.pending = [] := by
  unfold Pool.pending
  rw [h.waiting, List.map_nil, List.append_nil, List.flatMap_eq_nil_iff]
  intro w hw
  rw [Worker.running?, (h.retired w hw).hold, (h.retired w hw).queue]
  rfl

/-! ### A pool that is over turns calls away -/

theorem Over.unseen (h : p.Over) : p.unseen.Over := ⟨h.retired, h.waiting, h.ready⟩

/-- No worker is free, and none is left. -/
theorem Over.look (h : p.Over) (d : Waiter) : p.look d = p.note (.ended d.call unavailable) := by
  have hfree : p.freeWorker? = none :=
    freeWorker?_eq_none_iff.2 fun w hw => isFree_of_terminated (h.retired w hw).terminated
  have hall : p.workers.all (·.terminated) = true :=
    List.all_eq_true.2 fun w hw => (h.retired w hw).terminated
  simp only [Pool.look, hfree, hall, if_true]
  rfl

theorem Over.dispatch (h : p.Over) (c : Call) :
    p.dispatch c = p.note (.ended c unavailable) := by
  rw [dispatch_eq_look h.ready, h.look, settle_of_nil (by rw [ready_note, h.ready])]

theorem Over.handle (h : p.Over) (hi : i < p.workers.length) (c : Call) :
    p.handle i c = p.note (.ended c (.failed (.terminated i))) := by
  have hw := List.getElem?_eq_getElem hi
  simp only [Pool.handle, hw, (h.retiredAt i _ hw).terminated, if_true]

theorem Over.tryHandle (h : p.Over) (hi : i < p.workers.length) (c : Call) :
    p.tryHandle i c = p.note (.ended c .refused) := by
  have hw := List.getElem?_eq_getElem hi
  have hfree : p.workers[i].isFree = false := isFree_of_terminated (h.retiredAt i _ hw).terminated
  simp only [Pool.tryHandle, hw, hfree, Bool.false_eq_true, if_false]

theorem Over.stop (h : p.Over) (i : Nat) : p.stop i = p := by
  cases hw : p.workers[i]? with
  | none => rw [Pool.stop, hw]
  | some w =>
    have hret := h.retiredAt i w hw
    exact stop_of_dead hw hret.alive hret.terminated

theorem Over.stopAll (h : p.Over) : p.stopAll = p := by
  have hfold : ∀ is : List Nat, is.foldl Pool.stop p = p := fun is =>
    List.foldlRecOn (motive := fun q : Pool => q = p) is Pool.stop rfl fun q hq i _ => by
      rw [hq, h.stop i]
  have hroused : p.roused = p := by
    unfold Pool.roused
    rw [h.waiting, List.map_nil, List.append_nil, ← h.waiting]
  show ((List.range p.workers.length).foldl Pool.stop p).roused.settle = p
  rw [hfold, hroused, settle_of_nil h.ready]

/-- A request that the filter accepts is dispatched and turned away. -/
theorem Over.serve {g : Gateway} (h : p.Over) (hg : g.pool.unseen = p.unseen) {r : Request}
    (haccepts : g.accepts r.uri.requestText = true) (name : String) (slot : Option String)
    (remote : String) :
    g.serve name r slot remote =
      let (id, ids) := g.ids.obtain slot
      (.dispatched id, { g with
        ids := ids, pool := p.unseen.note (.ended (g.callOf name r id remote) unavailable) }) := by
  unfold Gateway.serve
  rw [if_pos haccepts]
  have hstep : ∀ c, (g.pool.step (.dispatch c)).2 = p.unseen.note (.ended c unavailable) := by
    intro c
    rw [← h.unseen.dispatch c, ← hg]
    rfl
  simp only [hstep]

end

/-! ### Runs -/

section

variable {s : PoolSettings} {n : Nat}

/-- After a teardown the pool is over, whatever is done afterwards. -/
theorem over_after (s : PoolSettings) (n : Nat) (as bs : List Action) :
    ((launched s n).after (as ++ .teardown :: bs)).Over := by
  have hdeserted : ((launched s n).after (as ++ [.teardown])).Deserted := by
    rw [after_concat, step_teardown]
    exact deserted_stopAll (regular_after s n as).unseen
  have hafter := hdeserted.after (ready_after rfl _) bs
  rw [← after_append, List.append_assoc, List.singleton_append] at hafter
  exact hafter.isOver (regular_after s n _) (ready_after rfl _)

theorem not_pending_of_over {as : List Action} (h : ((launched s n).after as).Over) (c : Call) :
    ¬ Pending (launched s n) as c := fun hc => by
  have hmem := mem_calls_of_pending hc
  rw [h.calls] at hmem
  cases hmem

/-- What is pending when the pool is torn down ends with it. -/
theorem ended_of_teardown {as : List Action} {c : Call} (h : Pending (launched s n) as c) :
    ∃ o, .ended c o ∈ (((launched s n).after as).step .teardown).2.effects := by
  obtain ⟨hmade, hended, hname⟩ := h
  by_contra hno
  refine not_pending_of_over (over_after s n as []) c ⟨?_, fun o ho => ?_, ?_⟩
  · rw [made_concat]
    exact List.mem_append_left _ hmade
  · rw [history_concat] at ho
    exact (List.mem_append.1 ho).elim (hended o) fun ho => hno ⟨o, ho⟩
  · rw [dropped, along_concat, List.mem_append]
    exact fun hm => hm.elim hname List.not_mem_nil

/-- From the teardown on nothing is written. -/
theorem unwritten_of_teardown (s : PoolSettings) (n : Nat) (as bs : List Action) (i : Nat)
    (t : String) : .wrote i t ∉ history ((launched s n).after as) (.teardown :: bs) := by
  have hover := over_after s n as []
  rw [after_concat] at hover
  intro ht
  rcases List.mem_append.1 ht with ht | ht
  · exact unwritten_of_kills (regular_after s n as) (heard_after s n as) (ready_after rfl as) rfl
      i t ht
  · exact ((hover.retiredAt i).run hover.ready bs).2 _ ht rfl

end

/-- When a pool is torn down, all that is pending ends, and nothing is written to any interpreter
from then on. Whatever is done afterwards: no call is pending, and every worker is terminated and
has no calls; a call on the pool, made there or for a request that the filter of a gateway accepts,
is answered 503 at once; a call on a worker fails or is refused; and another teardown has no
failures. None of these changes the pool. -/
theorem nothing_left (s : PoolSettings) (n : Nat) (as : List Action) :
    (∀ c, Pending (launched s n) as c →
      ∃ o, .ended c o ∈ (((launched s n).after as).step .teardown).2.effects) ∧
    (∀ bs i t, .wrote i t ∉ history ((launched s n).after as) (.teardown :: bs)) ∧
    ∀ bs, let p := (launched s n).after (as ++ .teardown :: bs)
      (p.pending = [] ∧ ∀ c, ¬ Pending (launched s n) (as ++ .teardown :: bs) c) ∧
      (p.workers.length = n ∧ ∀ w ∈ p.workers, w.Retired ∧ w.isBusy = false) ∧
      (∀ c, p.step (.dispatch c) = (.ok, p.unseen.note (.ended c unavailable))) ∧
      (∀ (g : Gateway) name r slot remote, g.pool.unseen = p.unseen →
        g.accepts r.uri.requestText = true →
        g.serve name r slot remote =
          let (id, ids) := g.ids.obtain slot
          (.dispatched id, { g with
            ids := ids, pool := p.unseen.note (.ended (g.callOf name r id remote) unavailable) })) ∧
      (∀ i c, i < n →
        p.step (.handle i c) = (.ok, p.unseen.note (.ended c (.failed (.terminated i)))) ∧
        p.step (.tryHandle i c) = (.ok, p.unseen.note (.ended c .refused))) ∧
      p.step .teardown = (.failures 0, p.unseen) := by
  refine ⟨fun c => ended_of_teardown, unwritten_of_teardown s n as, fun bs => ?_⟩
  intro p
  have hover : p.Over := over_after s n as bs
  have hlength : p.workers.length = n := length_after s n _
  refine ⟨⟨hover.pending, not_pending_of_over hover⟩,
    ⟨hlength, fun w hw => ⟨hover.retired w hw, hover.isBusy hw⟩⟩,
    fun c => congrArg (Prod.mk _) (hover.unseen.dispatch c),
    fun g name r slot remote hg haccepts => hover.serve hg haccepts name slot remote,
    fun i c hi => ⟨?_, ?_⟩, ?_⟩
  · exact congrArg (Prod.mk _) (hover.unseen.handle (hlength ▸ hi) c)
  · exact congrArg (Prod.mk _) (hover.unseen.tryHandle (hlength ▸ hi) c)
  · rw [step_teardown, hover.unseen.stopAll]

/-- Of four calls on two workers, the third waits for the first worker and the fourth for any. When
the pool is torn down the fourth is woken by the end of each other call, and in vain but for the
last. -/
theorem nothing_left_of_four :
    let c := Call.plain "c"
    let d := Call.plain "d"
    let as := [Action.dispatch (.plain "a"), .dispatch (.plain "b"), .handle 0 c, .dispatch d]
    let p := (launched .plain 2).after (as ++ [.teardown, .stdout 0 [], .advance 500])
    Pending (launched .plain 2) as c ∧ Pending (launched .plain 2) as d ∧
      (((launched .plain 2).after as).step .teardown).2.effects.filterMap
          (fun e => match e with | .ended x o => some (x.name, o) | _ => none) =
        [("a", .failed (.closed 0)), ("c", .failed (.write 0)), ("b", .failed (.closed 1)),
          ("d", unavailable)] ∧
      (∃ o, .ended c o ∈ (((launched .plain 2).after as).step .teardown).2.effects) ∧
      p.pending = [] ∧
      p.step (.handle 1 c) = (.ok, p.unseen.note (.ended c (.failed (.terminated 1)))) := by
  intro c d as p
  have hnames : ((made (launched .plain 2) as).map (·.name)).Nodup := by decide +kernel
  have hc : Pending (launched .plain 2) as c :=
    (pending_iff_mem_calls hnames c).2 (by decide +kernel)
  obtain ⟨hends, -, hlater⟩ := nothing_left .plain 2 as
  obtain ⟨⟨hnone, -⟩, -, -, -, hworker, -⟩ := hlater [.stdout 0 [], .advance 500]
  refine ⟨hc, (pending_iff_mem_calls hnames d).2 (by decide +kernel), by decide +kernel, hends c hc,
    hnone, (hworker 1 c (by decide)).1⟩

end FunctionHost.Pool
