import FunctionHost.Proofs.Pool.Ledger
import Mathlib.Data.List.Nodup
/-!
# Exclusive use of workers

What is in progress and what is pending is read off a run: a call is pending if it was made and
neither ended nor was dropped, and in progress on the worker that it got. A settled pool agrees with
this. Main statement: `exclusive_use`, if no two calls of a run have one name, a worker has at most
one call in progress, it is busy and others wait for it only while it has one, and every pending
call has exactly one place.
-/

namespace FunctionHost.Pool

/-- A call is pending after a run: it was made, and neither ended nor was dropped. -/
def Pending (p : Pool) (as : List Action) (c : Call) : Prop :=
  c ∈ made p as ∧ (∀ o, .ended c o ∉ history p as) ∧ c.name ∉ dropped p as

/-- A call is in progress on worker `i` after a run: it is pending and got that worker. -/
def InProgress (p : Pool) (as : List Action) (i : Nat) (c : Call) : Prop :=
  .obtained i c ∈ history p as ∧ Pending p as c

/-- Where a pending call can be. -/
inductive Place where
  /-- In progress on a worker. -/
  | worker (i : Nat)
  /-- At a position in the queue of a worker. -/
  | queue (i k : Nat)
  /-- At a position in the line of those that wait for any worker. -/
  | line (k : Nat)
deriving DecidableEq, Repr

/-- The call at a place. -/
def callAt (p : Pool) : Place → Option Call
  | .worker i => p.callOn i
  | .queue i k => (p.workers[i]?).bind fun w => w.queue[k]?
  | .line k => (p.waiting.map (·.call))[k]?

/-! ### The places of a settled pool -/

section

variable {p : Pool} {c : Call}

theorem mem_callsOn_iff {ws : List Worker} :
    c ∈ callsOn ws ↔ ∃ (i : Nat) (w : Worker), ws[i]? = some w ∧ c ∈ w.calls := by
  unfold callsOn
  rw [List.mem_flatMap]
  constructor
  · rintro ⟨w, hw, hc⟩
    obtain ⟨i, hi⟩ := List.mem_iff_getElem?.1 hw
    exact ⟨i, w, hi, hc⟩
  · rintro ⟨i, w, hi, hc⟩
    exact ⟨w, List.mem_of_getElem? hi, hc⟩

theorem calls_of_settled (hr : p.ready = []) :
    p.calls = callsOn p.workers ++ p.waiting.map (·.call) := by
  rw [calls, hr, List.flatMap_nil, List.append_nil]

/-- The call at a place on a worker is on that worker. -/
theorem mem_calls_of_worker {i : Nat} (h : p.callAt (.worker i) = some c) :
    ∃ w, p.workers[i]? = some w ∧ c ∈ w.hold.calls := by
  obtain ⟨w, hw, hc⟩ := Option.bind_eq_some_iff.1 h
  obtain ⟨inv, hinv, rfl⟩ := Worker.call?_eq_some_iff.1 hc
  refine ⟨w, hw, ?_⟩
  rw [hinv]
  exact List.mem_singleton_self _

theorem mem_calls_of_queue {i k : Nat} (h : p.callAt (.queue i k) = some c) :
    ∃ w, p.workers[i]? = some w ∧ w.queue[k]? = some c :=
  Option.bind_eq_some_iff.1 h

/-- What a settled pool holds has a place. -/
theorem exists_place (ht : p.HasTurns) (hr : p.ready = []) (hc : c ∈ p.calls) :
    ∃ x, p.callAt x = some c := by
  rw [calls_of_settled hr, List.mem_append] at hc
  rcases hc with hc | hc
  · obtain ⟨i, w, hi, hc⟩ := mem_callsOn_iff.1 hc
    rcases List.mem_append.1 hc with hc | hc
    · have hf : w.hold ≠ .free := fun hf => by simp [hf, Hold.calls] at hc
      obtain ⟨inv, hinv⟩ := running_of_not_free ht hr (List.mem_of_getElem? hi) hf
      rw [hinv] at hc
      refine ⟨.worker i, (callOn_eq hi).trans (Worker.call?_eq_some_iff.2 ⟨inv, hinv, ?_⟩)⟩
      exact (List.mem_singleton.1 hc).symm
    · obtain ⟨k, hk⟩ := List.mem_iff_getElem?.1 hc
      exact ⟨.queue i k, Option.bind_eq_some_iff.2 ⟨w, hi, hk⟩⟩
  · obtain ⟨k, hk⟩ := List.mem_iff_getElem?.1 hc
    exact ⟨.line k, hk⟩

/-- What has a place in a settled pool is held by it. -/
theorem mem_calls_of_place (hr : p.ready = []) {x : Place} (h : p.callAt x = some c) :
    c ∈ p.calls := by
  rw [calls_of_settled hr, List.mem_append]
  cases x with
  | worker i =>
    obtain ⟨w, hw, hc⟩ := mem_calls_of_worker h
    exact .inl (mem_callsOn_iff.2 ⟨i, w, hw, List.mem_append_left _ hc⟩)
  | queue i k =>
    obtain ⟨w, hw, hk⟩ := mem_calls_of_queue h
    exact .inl (mem_callsOn_iff.2 ⟨i, w, hw, List.mem_append_right _ (List.mem_of_getElem? hk)⟩)
  | line k => exact .inr (List.mem_of_getElem? h)

/-- If no call is on the workers twice, a call is on one worker only. -/
theorem worker_eq_of_nodup {ws : List Worker} (h : (callsOn ws).Nodup) {i j : Nat} {v w : Worker}
    (hv : ws[i]? = some v) (hw : ws[j]? = some w) (hcv : c ∈ v.calls) (hcw : c ∈ w.calls) :
    i = j := by
  obtain ⟨hi, rfl⟩ := List.getElem?_eq_some_iff.1 hv
  obtain ⟨hj, rfl⟩ := List.getElem?_eq_some_iff.1 hw
  have hpair := List.pairwise_iff_getElem.1 (List.nodup_flatMap.1 h).2
  rcases Nat.lt_trichotomy i j with hlt | heq | hlt
  · exact absurd hcw (List.disjoint_left.1 (hpair i j hi hj hlt) hcv)
  · exact heq
  · exact absurd hcv (List.disjoint_left.1 (hpair j i hj hi hlt) hcw)

/-- If a settled pool holds no call twice, a call has one place. -/
theorem place_unique (hr : p.ready = []) (h : p.calls.Nodup) {x y : Place}
    (hx : p.callAt x = some c) (hy : p.callAt y = some c) : x = y := by
  rw [calls_of_settled hr] at h
  obtain ⟨hon, hline, hdisjoint⟩ := List.nodup_append.1 h
  have hwork : ∀ {i : Nat} {w : Worker}, p.workers[i]? = some w → w.calls.Nodup := fun hw =>
    (List.nodup_flatMap.1 hon).1 _ (List.mem_of_getElem? hw)
  have happart : ∀ {i k : Nat} {w : Worker}, p.workers[i]? = some w → c ∈ w.calls →
      p.callAt (.line k) ≠ some c := fun hw hc hk =>
    hdisjoint c (mem_callsOn_iff.2 ⟨_, _, hw, hc⟩) c (List.mem_of_getElem? hk) rfl
  have hseat : ∀ {i k : Nat} {v w : Worker}, p.workers[i]? = some v → p.workers[i]? = some w →
      c ∈ v.hold.calls → w.queue[k]? ≠ some c := fun hv hw hc hk => by
    rw [Option.some.inj (hv.symm.trans hw)] at hc
    exact (List.nodup_append.1 (hwork hw)).2.2 c hc c (List.mem_of_getElem? hk) rfl
  cases x with
  | worker i =>
    obtain ⟨v, hv, hcv⟩ := mem_calls_of_worker hx
    cases y with
    | worker j =>
      obtain ⟨w, hw, hcw⟩ := mem_calls_of_worker hy
      rw [worker_eq_of_nodup hon hv hw (List.mem_append_left _ hcv) (List.mem_append_left _ hcw)]
    | queue j k =>
      obtain ⟨w, hw, hk⟩ := mem_calls_of_queue hy
      have hij := worker_eq_of_nodup hon hv hw (List.mem_append_left _ hcv)
        (List.mem_append_right _ (List.mem_of_getElem? hk))
      subst hij
      exact absurd hk (hseat hv hw hcv)
    | line k => exact absurd hy (happart hv (List.mem_append_left _ hcv))
  | queue i k =>
    obtain ⟨v, hv, hk⟩ := mem_calls_of_queue hx
    have hcv : c ∈ v.calls := List.mem_append_right _ (List.mem_of_getElem? hk)
    cases y with
    | worker j =>
      obtain ⟨w, hw, hcw⟩ := mem_calls_of_worker hy
      have hij := worker_eq_of_nodup hon hw hv (List.mem_append_left _ hcw) hcv
      subst hij
      exact absurd hk (hseat hw hv hcw)
    | queue j l =>
      obtain ⟨w, hw, hl⟩ := mem_calls_of_queue hy
      have hij := worker_eq_of_nodup hon hv hw hcv
        (List.mem_append_right _ (List.mem_of_getElem? hl))
      subst hij
      rw [Option.some.inj (hv.symm.trans hw)] at hk
      have hq : w.queue.Nodup := (List.nodup_append.1 (hwork hw)).2.1
      rw [(List.getElem?_inj (List.getElem?_eq_some_iff.1 hk).1 hq).1 (hk.trans hl.symm)]
    | line l => exact absurd hy (happart hv hcv)
  | line k =>
    cases y with
    | worker j =>
      obtain ⟨w, hw, hcw⟩ := mem_calls_of_worker hy
      exact absurd hx (happart hw (List.mem_append_left _ hcw))
    | queue j l =>
      obtain ⟨w, hw, hl⟩ := mem_calls_of_queue hy
      exact absurd hx (happart hw (List.mem_append_right _ (List.mem_of_getElem? hl)))
    | line l =>
      rw [(List.getElem?_inj (List.getElem?_eq_some_iff.1 hx).1 hline).1 (hx.trans hy.symm)]

end

/-! ### What a pool holds is what is pending -/

/-- If no call is made twice, no call is held twice. -/
theorem Ledger.nodup_calls {made gone : List Call} {es : List Effect} {p : Pool}
    (h : Ledger made gone es p) (hmade : made.Nodup) : p.calls.Nodup := by
  refine List.nodup_iff_count_le_one.2 fun x => ?_
  have hbalance := h.balance x
  have hle := List.nodup_iff_count_le_one.1 hmade x
  omega

section

variable {s : PoolSettings} {n : Nat} {as : List Action}

/-- The pool holds what is pending, however often a call is made. -/
theorem mem_calls_of_pending {c : Call} (h : Pending (launched s n) as c) :
    c ∈ ((launched s n).after as).calls := by
  obtain ⟨hmade, hended, hname⟩ := h
  obtain ⟨gone, hl, hgone, -⟩ := ledger_after s n as
  have hbalance := hl.read.1 c
  have hpos := List.count_pos_iff.2 hmade
  have hended : (endings (history (launched s n) as)).count c = 0 :=
    List.count_eq_zero.2 fun hm => (mem_endings_iff.1 hm).elim hended
  have hgone : gone.count c = 0 := List.count_eq_zero.2 fun hm => hname (hgone c hm)
  exact List.count_pos_iff.1 (by omega)

variable (h : ((made (launched s n) as).map (·.name)).Nodup)
include h

theorem nodup_calls_after : ((launched s n).after as).calls.Nodup := by
  obtain ⟨gone, hl, -, -⟩ := ledger_after s n as
  exact hl.nodup_calls h.of_map

/-- A call is pending exactly if the pool holds it. -/
theorem pending_iff_mem_calls (c : Call) :
    Pending (launched s n) as c ↔ c ∈ ((launched s n).after as).calls := by
  refine ⟨mem_calls_of_pending, fun hc => ?_⟩
  obtain ⟨gone, hl, -, hdropped⟩ := ledger_after s n as
  have hbalance := hl.read.1
  have hsum := hbalance c
  have hle := List.nodup_iff_count_le_one.1 h.of_map c
  have hpos := List.count_pos_iff.2 hc
  have hmade : c ∈ made (launched s n) as := List.count_pos_iff.1 (by omega)
  refine ⟨hmade, fun o ho => ?_, fun hname => ?_⟩
  · have := List.count_pos_iff.2 (mem_endings_iff.2 ⟨o, ho⟩)
    omega
  · -- a dropped call of this name was made, so it is this call
    obtain ⟨d, hd, hdc⟩ := hdropped _ hname
    have hdpos := List.count_pos_iff.2 hd
    have hdmade : d ∈ made (launched s n) as :=
      List.count_pos_iff.1 (by have := hbalance d; omega)
    rw [List.inj_on_of_nodup_map h hdmade hmade hdc] at hdpos
    omega

/-- A call is in progress on a worker exactly if the worker runs it. -/
theorem inProgress_iff_callOn (i : Nat) (c : Call) :
    InProgress (launched s n) as i c ↔ ((launched s n).after as).callOn i = some c := by
  obtain ⟨gone, hl, hgone, -⟩ := ledger_after s n as
  obtain ⟨-, hobtained, hrunning⟩ := hl.read
  constructor
  · rintro ⟨hob, -, hended, hname⟩
    rcases hobtained i c hob with hon | he | hg
    · exact hon
    · exact absurd (mem_endings_iff.1 he) fun ⟨o, ho⟩ => hended o ho
    · exact absurd (hgone c hg) hname
  · intro hon
    have hr : ((launched s n).after as).ready = [] := ready_after rfl as
    have hheld := mem_calls_of_place (x := .worker i) hr hon
    exact ⟨hrunning i c hon, (pending_iff_mem_calls h c).2 hheld⟩

end

/-! ### The result -/

/-- After every run in which no two calls have one name: a worker has at most one call in progress;
it is busy exactly while it has one, and others wait for it only then; the places of the pool hold
the pending calls, each at exactly one place, and those in progress on a worker at that worker. -/
theorem exclusive_use (s : PoolSettings) (n : Nat) (as : List Action)
    (h : ((made (launched s n) as).map (·.name)).Nodup) :
    (∀ i c d, InProgress (launched s n) as i c → InProgress (launched s n) as i d → c = d) ∧
    (∀ i w, ((launched s n).after as).workers[i]? = some w →
      (w.isBusy = true ↔ ∃ c, InProgress (launched s n) as i c) ∧
      (w.queue ≠ [] → ∃ c, InProgress (launched s n) as i c)) ∧
    (∀ i c, ((launched s n).after as).callAt (.worker i) = some c ↔
      InProgress (launched s n) as i c) ∧
    (∀ x c, ((launched s n).after as).callAt x = some c → Pending (launched s n) as c) ∧
    ∀ c, Pending (launched s n) as c → ∃! x, ((launched s n).after as).callAt x = some c := by
  have hr : ((launched s n).after as).ready = [] := ready_after rfl as
  have ht := hasTurns_after s n as
  refine ⟨fun i c d hc hd => ?_, fun i w hw => ⟨?_, fun hq => ?_⟩, fun i c => ?_, fun x c hx => ?_,
    fun c hc => ?_⟩
  · rw [inProgress_iff_callOn h] at hc hd
    exact Option.some.inj (hc.symm.trans hd)
  · rw [Worker.isBusy_iff]
    simp only [inProgress_iff_callOn h, callOn_eq hw]
    exact Option.isSome_iff_exists
  · have hfree : w.hold ≠ .free := fun hf =>
      hq ((sound_after s n as w (List.mem_of_getElem? hw)).queue hf)
    obtain ⟨inv, hinv⟩ := running_of_not_free ht hr (List.mem_of_getElem? hw) hfree
    refine ⟨inv.call, (inProgress_iff_callOn h i _).2 ?_⟩
    rw [callOn_eq hw]
    exact Worker.call?_eq_some_iff.2 ⟨inv, hinv, rfl⟩
  · exact (inProgress_iff_callOn h i c).symm
  · exact (pending_iff_mem_calls h c).2 (mem_calls_of_place hr hx)
  · obtain ⟨x, hx⟩ := exists_place ht hr ((pending_iff_mem_calls h c).1 hc)
    exact ⟨x, hx, fun y hy => place_unique hr (nodup_calls_after h) hy hx⟩

/-- Of three calls on a pool of one worker, the first is in progress, the second has its one place
in the worker's queue, and the third in the line. -/
theorem exclusive_use_of_three :
    let as := [Action.dispatch (.plain "a"), .handle 0 (.plain "b"), .dispatch (.plain "c")]
    ((made (launched .plain 1) as).map (·.name)).Nodup ∧
      InProgress (launched .plain 1) as 0 (.plain "a") ∧
      (∃! x, ((launched .plain 1).after as).callAt x = some (.plain "b")) ∧
      ∃! x, ((launched .plain 1).after as).callAt x = some (.plain "c") := by
  intro as
  have hnames : ((made (launched .plain 1) as).map (·.name)).Nodup := by decide +kernel
  obtain ⟨-, -, hworker, hpending, hplace⟩ := exclusive_use .plain 1 as hnames
  refine ⟨hnames, (hworker 0 _).1 ?_, hplace _ (hpending (.queue 0 0) _ ?_),
    hplace _ (hpending (.line 0) _ ?_)⟩
  · decide +kernel
  · decide +kernel
  · decide +kernel

end FunctionHost.Pool
