import FunctionHost.Proofs.Pool.Once
/-!
# First come, first served

Calls that are made on a worker that somebody has form a queue. An action lets one more call in at
its end (`queuedBy`) or takes cancelled calls out of it (`withdrawnBy`); of the line that is left
(`lined`) the action lets some calls have the worker (`admittedBy`). While the pool settles, the
calls that get the worker are the first of that line, and another call gets it only when nobody is
left in the line (`InTurn`), because a worker that passes on belongs to the first in its queue
before any woken call looks for it.

Main statement: `first_come_first_served`, in every run the calls that queue on a worker get it in
the order in which they came, leaving out those that were cancelled, and nobody overtakes them.
-/

namespace FunctionHost

open Relation

/-- The call that was granted a worker and has not begun. -/
def Hold.grantee : Hold → List Call
  | .granted c => [c]
  | _ => []

/-- The calls that will have a worker in their turn. -/
def Worker.line (w : Worker) : List Call := w.hold.grantee ++ w.queue

/-- Somebody has a worker that takes calls, so that one more call has to wait. -/
def Worker.isTaken (w : Worker) : Bool := !w.terminated && w.hold != .free

namespace Worker

variable {w : Worker}

theorem line_passedOn (w : Worker) : w.passedOn.line = w.queue := by
  unfold passedOn
  split
  next hq => rw [hq]; rfl
  next c cs hq => rw [hq]; rfl

theorem queue_passedOn_suffix (w : Worker) : w.passedOn.queue <:+ w.queue := by
  rw [← w.line_passedOn]
  exact List.suffix_append _ _

theorem line_of_running {inv : Invocation} (h : w.hold = .running inv) : w.line = w.queue := by
  rw [line, h]
  rfl

theorem line_of_granted {c : Call} (h : w.hold = .granted c) : w.line = c :: w.queue := by
  rw [line, h]
  rfl

theorem line_of_free (hs : w.Sound) (h : w.hold = .free) : w.line = [] := by
  rw [line, h, hs.queue h]
  rfl

end Worker

namespace Pool

/-- A list that worker `i` keeps, empty if there is no such worker. -/
def onWorker (f : Worker → List Call) (i : Nat) (p : Pool) : List Call :=
  ((p.workers[i]?).map f).getD []

/-- The calls that wait for worker `i`. -/
def queueOf (i : Nat) (p : Pool) : List Call := onWorker Worker.queue i p

/-- The calls that will have worker `i` in their turn. -/
def lineOf (i : Nat) (p : Pool) : List Call := onWorker Worker.line i p

/-- The calls that get worker `i`, in order. -/
def getters (i : Nat) (es : List Effect) : List Call :=
  es.filterMap fun
    | .obtained j c => if j = i then some c else none
    | _ => none

/-- The call that an action lets into the queue of worker `i`. -/
def queuedBy (i : Nat) (p : Pool) : Action → List Call
  | .handle k c => if k = i ∧ (p.workers[i]?).any Worker.isTaken then [c] else []
  | _ => []

/-- The calls that an action takes out of the queue of worker `i`. -/
def withdrawnBy (i : Nat) (p : Pool) : Action → List Call
  | .cancel name =>
    if p.workers.findIdx? (runs name) = none ∧ p.workers.findIdx? (queues name) = some i then
      (queueOf i p).filter (·.name == name)
    else []
  | _ => []

/-- The queue of worker `i` once an action has let calls in and taken calls out. -/
def lined (i : Nat) (p : Pool) (a : Action) : List Call :=
  (queueOf i p).filter (· ∉ withdrawnBy i p a) ++ queuedBy i p a

/-- The calls that an action moves from the queue of worker `i` to the worker. -/
def admittedBy (i : Nat) (p : Pool) (a : Action) : List Call :=
  (lined i p a).take ((lined i p a).length - (queueOf i (p.step a).2).length)

/-- The calls that queued on worker `i` in a run, in order. -/
def queued (i : Nat) (p : Pool) (as : List Action) : List Call := along (queuedBy i) p as

/-- The calls that were cancelled in a run while they queued on worker `i`. -/
def withdrawn (i : Nat) (p : Pool) (as : List Action) : List Call := along (withdrawnBy i) p as

/-- The calls that got worker `i` in a run after they queued on it, in order. -/
def admitted (i : Nat) (p : Pool) (as : List Action) : List Call := along (admittedBy i) p as

/-! ### What is read off a pool -/

section

variable {p q : Pool} {i k : Nat} {w v : Worker} {f : Worker → List Call} {es fs : List Effect}

theorem onWorker_eq (hw : p.workers[i]? = some w) : onWorker f i p = f w := by
  rw [onWorker, hw]
  rfl

theorem onWorker_congr (hws : q.workers = p.workers) : onWorker f i q = onWorker f i p := by
  rw [onWorker, hws, onWorker]

theorem onWorker_set (hw : p.workers[k]? = some w) (hws : q.workers = p.workers.set k v) :
    onWorker f i q = if i = k then f v else onWorker f i p := by
  unfold onWorker
  rw [hws]
  by_cases hik : i = k
  · subst hik
    rw [if_pos rfl, List.getElem?_set_self (List.getElem?_eq_some_iff.1 hw).1]
    rfl
  · rw [if_neg hik, List.getElem?_set_ne (Ne.symm hik)]

theorem getters_append : getters i (es ++ fs) = getters i es ++ getters i fs := by
  simp [getters]

theorem getters_of_not_mem (h : ∀ j c, .obtained j c ∉ fs) : getters i fs = [] := by
  refine List.filterMap_eq_nil_iff.2 fun e he => ?_
  cases e with
  | obtained j c => exact absurd he (h j c)
  | _ => rfl

theorem filter_not_mem_filter (cs : List Call) (g : Call → Bool) :
    cs.filter (· ∉ cs.filter g) = cs.filter (!g ·) := by
  refine List.filter_congr fun c hc => ?_
  cases hg : g c <;> simp [hc, hg]

/-- In a settled pool the line for a worker is its queue. -/
theorem lineOf_of_settled (ht : p.HasTurns) (hr : p.ready = []) (i : Nat) :
    lineOf i p = queueOf i p := by
  unfold lineOf queueOf
  cases hw : p.workers[i]? with
  | none => simp [onWorker, hw]
  | some w =>
    rw [onWorker_eq hw, onWorker_eq hw, Worker.line]
    have hno := not_granted_of_settled ht hr (List.mem_of_getElem? hw)
    cases hh : w.hold with
    | granted c => exact absurd hh (hno c)
    | _ => rfl

end

/-! ### Settling -/

/-- Of the line `front ++ back` some calls have got worker `i`, first come first; the others are the
line now. Another call has got the worker only after all of them. -/
def InTurn (i : Nat) (front back : List Call) (p : Pool) : Prop :=
  ∃ taken later, getters i p.effects = taken ++ later ∧ front ++ back = taken ++ lineOf i p ∧
    queueOf i p <:+ back ∧ (lineOf i p ≠ [] → later = [])

section

variable {p q r : Pool} {i k : Nat} {w v : Worker} {c : Call} {front back : List Call}
  {fs : List Effect}

/-- The line has not changed and nobody has got the worker. -/
theorem InTurn.same (h : InTurn i front back p) (hline : lineOf i q = lineOf i p)
    (hqueue : queueOf i q <:+ queueOf i p) (hgot : getters i q.effects = getters i p.effects) :
    InTurn i front back q := by
  obtain ⟨taken, later, hobtained, hparts, hback, hempty⟩ := h
  refine ⟨taken, later, hgot.trans hobtained, ?_, hqueue.trans hback, ?_⟩
  · rw [hline]
    exact hparts
  · rw [hline]
    exact hempty

/-- The workers stay. -/
theorem InTurn.ofWorkers (h : InTurn i front back p) (hws : q.workers = p.workers)
    (he : q.effects = p.effects ++ fs) (hno : ∀ j c, .obtained j c ∉ fs) :
    InTurn i front back q := by
  refine h.same (onWorker_congr hws) ?_ ?_
  · rw [queueOf, onWorker_congr hws]
    exact List.suffix_refl _
  · rw [he, getters_append, getters_of_not_mem hno, List.append_nil]

/-- Another worker changes, and nobody has got the worker. -/
theorem InTurn.elsewhere (h : InTurn i front back p) (hik : i ≠ k) (hw : p.workers[k]? = some w)
    (hws : q.workers = p.workers.set k v) (hgot : getters i q.effects = getters i p.effects) :
    InTurn i front back q := by
  have hline : lineOf i q = lineOf i p := by
    rw [lineOf, onWorker_set hw hws, if_neg hik, lineOf]
  have hqueue : queueOf i q = queueOf i p := by
    rw [queueOf, onWorker_set hw hws, if_neg hik, queueOf]
  exact h.same hline (hqueue ▸ List.suffix_refl _) hgot

/-- A worker changes and keeps its line. -/
theorem InTurn.set (h : InTurn i front back p) (hw : p.workers[k]? = some w)
    (hws : q.workers = p.workers.set k v) (hline : v.line = w.line)
    (hqueue : v.queue <:+ w.queue) (he : q.effects = p.effects ++ fs)
    (hno : ∀ j c, .obtained j c ∉ fs) : InTurn i front back q := by
  have hgot : getters i q.effects = getters i p.effects := by
    rw [he, getters_append, getters_of_not_mem hno, List.append_nil]
  by_cases hik : i = k
  · subst hik
    refine h.same ?_ ?_ hgot
    · rw [lineOf, onWorker_set hw hws, if_pos rfl, hline, lineOf, onWorker_eq hw]
    · rw [queueOf, onWorker_set hw hws, if_pos rfl, queueOf, onWorker_eq hw]
      exact hqueue
  · exact h.elsewhere hik hw hws hgot

/-- A call whose turn it is gets its worker, and the queue is the line. -/
theorem InTurn.obtains (h : InTurn i front back p) (hs : p.Sound) (hc : Comes p k c r)
    (hw : p.workers[k]? = some w) (hws : q.workers = p.workers.set k v) (hline : v.line = w.queue)
    (hqueue : v.queue <:+ w.queue) (he : q.effects = p.effects ++ .obtained k c :: fs)
    (hno : ∀ j c, .obtained j c ∉ fs) : InTurn i front back q := by
  have hgot : getters i q.effects = getters i p.effects ++ if k = i then [c] else [] := by
    rw [he, getters_append, ← List.singleton_append, getters_append, getters_of_not_mem hno,
      List.append_nil]
    by_cases hki : k = i
    · simp [getters, hki]
    · simp [getters, hki]
  by_cases hik : i = k
  · subst hik
    rw [if_pos rfl] at hgot
    have hlineq : lineOf i q = w.queue := by
      rw [lineOf, onWorker_set hw hws, if_pos rfl, hline]
    have hqueueq : queueOf i q <:+ queueOf i p := by
      rw [queueOf, onWorker_set hw hws, if_pos rfl, queueOf, onWorker_eq hw]
      exact hqueue
    have hlinep : lineOf i p = w.line := onWorker_eq hw
    obtain ⟨taken, later, hobtained, hparts, hback, hempty⟩ := h
    cases hc with
    | granted hr hv hg =>
      -- the call was the first in the line
      rw [Option.some.inj (hv.symm.trans hw)] at hg
      rw [hlinep, Worker.line_of_granted hg] at hparts hempty
      rw [hempty (List.cons_ne_nil _ _), List.append_nil] at hobtained
      refine ⟨taken ++ [c], [], ?_, ?_, hqueueq.trans hback, fun _ => rfl⟩
      · rw [hgot, hobtained, List.append_nil]
      · rw [hlineq, hparts, List.append_assoc]
        rfl
    | woken hr hf hd =>
      -- the worker was free, so there is no line
      obtain ⟨u, hu, hfree⟩ := isFree_of_freeWorker? hf
      rw [Option.some.inj (hu.symm.trans hw)] at hfree
      have hnobody := (hs.at hw).queue (isFree_iff.1 hfree).2
      rw [hlinep, Worker.line_of_free (hs.at hw) (isFree_iff.1 hfree).2] at hparts
      refine ⟨taken, later ++ [c], ?_, ?_, hqueueq.trans hback, fun hne => ?_⟩
      · rw [hgot, hobtained, List.append_assoc]
      · rw [hlineq, hnobody]
        exact hparts
      · rw [hlineq, hnobody] at hne
        exact absurd rfl hne
  · refine h.elsewhere hik hw hws ?_
    rw [hgot, if_neg (Ne.symm hik), List.append_nil]

theorem InTurn.stir (hs : p.Sound) (hm : Stir p q) (h : InTurn i front back p) :
    InTurn i front back q := by
  cases hm with
  | @begins r k c w hc hw hr =>
    rw [hc.workers] at hw
    exact h.obtains hs hc hw (hc.workers_seize w) (Worker.line_of_running rfl)
      (List.suffix_refl _) (hc.effects_seize w) (by simp)
  | @fails r k c w hc hw hr =>
    have hws := hc.workers_fail hw (.failed (.write k))
    have he := hc.effects_fail hw (.failed (.write k))
    rw [hc.workers] at hw
    exact h.obtains hs hc hw hws w.line_passedOn w.queue_passedOn_suffix he (by simp)
  | turnsAway b hr hf hd => exact h.ofWorkers rfl (effects_note _ _) (by simp)
  | @reads k w inv hw hinv hd =>
    refine h.set hw rfl ?_ (List.suffix_refl _) rfl (by simp)
    rw [Worker.line_of_running hinv]
    exact Worker.line_of_running rfl
  | @completes k w inv hw hinv hd =>
    refine h.set hw (workers_finish_notes hw _ _ _ _ _) ?_ ?_ (effects_finish_notes hw _ _ _ _ _)
      (by simp)
    · rw [Worker.line_passedOn, Worker.line_of_running hinv]
    · exact Worker.queue_passedOn_suffix _
  | @closes k w inv hw hinv ha hu =>
    refine h.set hw (workers_finish_setWorker hw _ _ _) ?_ ?_ (effects_finish_setWorker hw _ _ _)
      (by simp)
    · rw [Worker.line_passedOn, Worker.line_of_running hinv]
    · exact Worker.queue_passedOn_suffix _
  | @expires k w inv hw hinv ht =>
    refine h.set hw (workers_finish hw _ _) ?_ ?_ (effects_finish hw _ _) (by simp)
    · rw [Worker.line_passedOn, Worker.line_of_running hinv]
    · exact Worker.queue_passedOn_suffix _
  | givesUp => exact h.ofWorkers rfl (effects_expireWaiting p _) (by simp)
  | errs data hw => exact h.set hw rfl rfl (List.suffix_refl _) rfl (not_mem_said _ _)
  | deafens hw =>
    exact h.set hw rfl rfl (List.suffix_refl _) (List.append_nil _).symm (by simp)
  | _ => exact h.ofWorkers rfl (List.append_nil _).symm (by simp)

theorem InTurn.move (hs : p.Sound) (hm : Move p q) (h : InTurn i front back p) :
    InTurn i front back q := by
  cases hm with
  | stirs hm => exact h.stir hs hm
  | dies hw ha => exact h.set hw rfl rfl (List.suffix_refl _) rfl (not_mem_said _ _)
  | reports => exact h.ofWorkers rfl (effects_note _ _) (by simp)
  | marks hw ha =>
    exact h.set hw rfl rfl (List.suffix_refl _) (List.append_nil _).symm (by simp)
  | wakesAll => exact h.ofWorkers rfl (List.append_nil _).symm (by simp)

theorem InTurn.moves (hs : p.Sound) (hm : Moves p q) (h : InTurn i front back p) :
    InTurn i front back q := by
  have key : q.Sound ∧ InTurn i front back q := by
    induction hm with
    | refl => exact ⟨hs, h⟩
    | tail _ hm ih => exact ⟨ih.1.move hm, ih.2.move ih.1 hm⟩
  exact key.2

end

/-! ### Actions -/

section

variable {p q : Pool} {i k : Nat} {w : Worker} {c : Call} {a : Action}

/-- When nobody has got the worker, the line is the front and the queue is the back. -/
theorem inTurn_start (i : Nat) (h : getters i p.effects = []) :
    InTurn i (onWorker (·.hold.grantee) i p) (queueOf i p) p := by
  refine ⟨[], [], h, ?_, List.suffix_refl _, fun _ => rfl⟩
  unfold queueOf lineOf onWorker
  cases p.workers[i]? <;> rfl

/-- In a settled pool the front is empty. -/
theorem inTurn_settled (ht : p.HasTurns) (hr : p.ready = []) (i : Nat)
    (h : getters i p.effects = []) : InTurn i [] (queueOf i p) p :=
  ⟨[], [], h, (lineOf_of_settled ht hr i).symm, List.suffix_refl _, fun _ => rfl⟩

theorem lined_of_nil (hin : queuedBy i p a = []) (hdraw : withdrawnBy i p a = []) :
    lined i p a = queueOf i p := by
  rw [lined, hin, hdraw, List.append_nil]
  simp

/-- In what an action leaves calls are in turn: those that are lined up, or one call that was
granted the free worker. -/
def Lines (i : Nat) (p : Pool) (a : Action) (q : Pool) : Prop :=
  ∃ front back, InTurn i front back q ∧
    (front = [] ∧ back = lined i p a ∨ back = [] ∧ lined i p a = [])

theorem Lines.moves (h : Lines i p a q) (hs : q.Sound) {r : Pool} (hm : Moves q r) :
    Lines i p a r := by
  obtain ⟨front, back, hturn, hcases⟩ := h
  exact ⟨front, back, hturn.moves hs hm, hcases⟩

variable (ht : p.HasTurns) (hr : p.ready = [])
include ht hr

/-- The workers stay, and the action lets nobody in. -/
theorem lines_of_workers (hws : q.workers = p.workers)
    (hno : ∀ j c, .obtained j c ∉ q.effects) (hin : queuedBy i p a = [])
    (hdraw : withdrawnBy i p a = []) : Lines i p a q := by
  refine ⟨[], _, ?_, .inl ⟨rfl, (lined_of_nil hin hdraw).symm⟩⟩
  exact (inTurn_settled (p := p.unseen) ht hr i rfl).ofWorkers hws (List.nil_append _).symm hno

/-- The queue of one worker changes. -/
theorem lines_of_queue {v : Worker} (hw : p.workers[k]? = some w)
    (hws : q.workers = p.workers.set k v) (hhold : v.hold = w.hold) (hready : q.ready = p.ready)
    (he : q.effects = []) (hlined : lined i p a = if i = k then v.queue else queueOf i p) :
    Lines i p a q := by
  have hturns : q.HasTurns := by
    refine ht.set hws (fun j _ hj => by rwa [hready]) fun c hg => ?_
    rw [hready]
    exact ht k w c hw (hhold ▸ hg)
  refine ⟨[], _, inTurn_settled hturns (hready.trans hr) i (by rw [he]; rfl), .inl ⟨rfl, ?_⟩⟩
  rw [hlined, queueOf, onWorker_set hw hws, queueOf]

/-- A call begins on a free worker. -/
theorem lines_of_free (hs : p.Sound) (hw : p.workers[k]? = some w) (hf : w.isFree = true)
    (hin : queuedBy i p a = []) (hdraw : withdrawnBy i p a = []) :
    Lines i p a (p.unseen.start k c).settle := by
  have hfree := (isFree_iff.1 hf).2
  have hsound := hs.at hw
  have hstirs := start_stirs_of_free (p := p.unseen) hr hw c
  refine Lines.moves ?_ ?_ (moves_of_stirs hstirs)
  · by_cases hik : i = k
    · -- the call is the whole line, and nobody waits for a free worker
      subst hik
      refine ⟨_, _, inTurn_start i rfl, .inr ⟨?_, ?_⟩⟩
      · refine (onWorker_set (p := p) (k := i) hw rfl).trans ?_
        rw [if_pos rfl]
        exact hsound.queue hfree
      · rw [lined_of_nil hin hdraw, queueOf, onWorker_eq hw]
        exact hsound.queue hfree
    · refine ⟨[], _, ?_, .inl ⟨rfl, (lined_of_nil hin hdraw).symm⟩⟩
      exact (inTurn_settled (p := p.unseen) ht hr i rfl).elsewhere hik hw rfl rfl
  · exact Sound.setWorker (p := p.unseen) hs
      ⟨fun hg => Hold.noConfusion hg, hsound.terminated, hsound.reading⟩

theorem lines_handle (hs : p.Sound) (i k : Nat) (c : Call) :
    Lines i p (.handle k c) (p.unseen.handle k c) := by
  have hin : ∀ {w : Worker}, p.workers[k]? = some w →
      queuedBy i p (.handle k c) = if k = i ∧ w.isTaken = true then [c] else [] := by
    intro w hw
    by_cases hki : k = i
    · subst hki
      simp only [queuedBy, hw, Option.any_some]
    · simp only [queuedBy, hki, false_and]
  unfold handle
  split
  next hw =>
    refine lines_of_workers ht hr rfl (by simp) ?_ rfl
    have hw : p.workers[k]? = none := hw
    rw [queuedBy, if_neg]
    rintro ⟨rfl, htaken⟩
    rw [hw] at htaken
    cases htaken
  next w hw =>
    have hw : p.workers[k]? = some w := hw
    have hno : w.isTaken = false → queuedBy i p (.handle k c) = [] := by
      intro htaken
      rw [hin hw, htaken]
      simp
    split
    next hterm =>
      exact lines_of_workers ht hr rfl (by simp) (hno (by simp [Worker.isTaken, hterm])) rfl
    next hterm =>
      split
      next hfree =>
        exact lines_of_free ht hr hs hw (isFree_iff.2 ⟨by simpa using hterm, hfree⟩)
          (hno (by simp [Worker.isTaken, hfree])) rfl
      next hfree =>
        have htaken : w.isTaken = true := by simp [Worker.isTaken, hterm, hfree]
        refine lines_of_queue ht hr hw rfl rfl rfl rfl ?_
        rw [lined, hin hw]
        by_cases hik : i = k
        · subst hik
          rw [if_pos ⟨rfl, htaken⟩, if_pos rfl, queueOf, onWorker_eq hw]
          simp [withdrawnBy]
        · rw [if_neg fun hki => hik hki.1.symm, if_neg hik, List.append_nil]
          simp [withdrawnBy]

theorem lines_tryHandle (hs : p.Sound) (i k : Nat) (c : Call) :
    Lines i p (.tryHandle k c) (p.unseen.tryHandle k c) := by
  unfold tryHandle
  split
  next => exact lines_of_workers ht hr rfl (by simp) rfl rfl
  next w hw =>
    have hw : p.workers[k]? = some w := hw
    split
    next hf => exact lines_of_free ht hr hs hw hf rfl rfl
    next => exact lines_of_workers ht hr rfl (by simp) rfl rfl

theorem lines_cancel (hs : p.Sound) (i : Nat) (name : String) :
    Lines i p (.cancel name) (p.unseen.cancel name).2 := by
  unfold cancel
  split
  next k hk =>
    have hk : p.workers.findIdx? (runs name) = some k := hk
    obtain ⟨hlt, hrun, -⟩ := List.findIdx?_eq_some_iff_getElem.1 hk
    obtain ⟨inv, hinv, -⟩ := runs_eq_true_iff.1 hrun
    have hw : p.unseen.workers[k]? = some p.workers[k] := List.getElem?_eq_getElem hlt
    have hdraw : withdrawnBy i p (.cancel name) = [] := by simp [withdrawnBy, hk]
    refine Lines.moves ⟨[], _, ?_, .inl ⟨rfl, (lined_of_nil rfl hdraw).symm⟩⟩
      (Sound.release (p := p.unseen) hs hw) (moves_of_stirs (settle_stirs _))
    refine (inTurn_settled (p := p.unseen) ht hr i rfl).set hw (workers_release hw) ?_
      (Worker.queue_passedOn_suffix _) ((effects_release hw).trans (List.append_nil _).symm)
      (by simp)
    rw [Worker.line_passedOn, Worker.line_of_running hinv]
  next hruns =>
    have hruns : p.workers.findIdx? (runs name) = none := hruns
    split
    next k hk =>
      have hk : p.workers.findIdx? (queues name) = some k := hk
      obtain ⟨hlt, -⟩ := List.findIdx?_eq_some_iff_getElem.1 hk
      have hw : p.workers[k]? = some p.workers[k] := List.getElem?_eq_getElem hlt
      refine lines_of_queue ht hr hw (modify_eq_set_of_getElem? (p := p.unseen) hw _) rfl rfl rfl ?_
      by_cases hik : i = k
      · subst hik
        have hin : queuedBy i p (.cancel name) = [] := rfl
        rw [if_pos rfl, lined, hin, List.append_nil, withdrawnBy, if_pos ⟨hruns, hk⟩,
          filter_not_mem_filter, queueOf, onWorker_eq hw]
        rfl
      · have hdraw : withdrawnBy i p (.cancel name) = [] := by
          simp [withdrawnBy, hk, Ne.symm hik]
        rw [if_neg hik, lined_of_nil rfl hdraw]
    next hqueues =>
      have hqueues : p.workers.findIdx? (queues name) = none := hqueues
      have hdraw : withdrawnBy i p (.cancel name) = [] := by simp [withdrawnBy, hqueues]
      split
      · exact lines_of_workers ht hr rfl (by simp) rfl hdraw
      · exact lines_of_workers ht hr rfl (by simp) rfl hdraw

theorem lines_step (hs : p.Sound) (i : Nat) (a : Action) : Lines i p a (p.step a).2 := by
  have hquiet : queuedBy i p a = [] → withdrawnBy i p a = [] → Lines i p a p.unseen :=
    lines_of_workers ht hr rfl (by simp)
  cases a with
  | dispatch c =>
    refine Lines.moves ?_ ?_ (moves_of_stirs (settle_stirs _))
    · exact lines_of_workers ht hr rfl (by simp) rfl rfl
    · exact hs
  | handle k c => exact lines_handle ht hr hs i k c
  | tryHandle k c => exact lines_tryHandle ht hr hs i k c
  | cancel name => exact lines_cancel ht hr hs i name
  | stdout k data =>
    change Lines i p _ (p.unseen.stdout k data).2
    rcases stdout_cases p.unseen k data with ⟨-, q, hp, hm, -⟩ | ⟨-, heq⟩
    · refine Lines.moves ?_ (Sound.change (.prints hp) (p := p.unseen) hs) (moves_of_stirs hm)
      cases hp with
      | feeds hw ha =>
        refine ⟨[], _, ?_, .inl ⟨rfl, (lined_of_nil rfl rfl).symm⟩⟩
        exact (inTurn_settled (p := p.unseen) ht hr i rfl).set hw rfl rfl (List.suffix_refl _)
          (List.append_nil _).symm (by simp)
    · rw [heq]
      exact hquiet rfl rfl
  | stderr k data =>
    exact (hquiet rfl rfl).moves hs (moves_of_stirs (stderr_stirs p.unseen k data hr).1)
  | closeStdin k => exact (hquiet rfl rfl).moves hs (moves_of_stirs (closeStdin_stirs p.unseen k))
  | exit k => exact (hquiet rfl rfl).moves hs (exit_moves p.unseen k hr).1
  | advance ms => exact (hquiet rfl rfl).moves hs (moves_of_stirs (advance_stirs ms p.unseen hr).1)
  | terminate k =>
    rw [step_terminate]
    exact (hquiet rfl rfl).moves hs (stop_moves p.unseen k)
  | teardown =>
    rw [step_teardown]
    exact (hquiet rfl rfl).moves hs (stopAll_moves p.unseen)

end

/-! ### Runs -/

theorem queueOf_launched (s : PoolSettings) (n i : Nat) : queueOf i (launched s n) = [] := by
  cases hw : (launched s n).workers[i]? with
  | none => simp [queueOf, onWorker, hw]
  | some w =>
    rw [queueOf, onWorker_eq hw, launched_worker (List.mem_of_getElem? hw)]

/-- The queue is what is withdrawn from it and the rest. -/
theorem withdrawnBy_perm (i : Nat) (p : Pool) (a : Action) :
    ((queueOf i p).filter (· ∉ withdrawnBy i p a) ++ withdrawnBy i p a).Perm (queueOf i p) := by
  have hnone : withdrawnBy i p a = [] →
      ((queueOf i p).filter (· ∉ withdrawnBy i p a) ++ withdrawnBy i p a).Perm (queueOf i p) := by
    intro hdraw
    rw [hdraw, List.append_nil, List.filter_eq_self.2 (by simp)]
  cases a with
  | cancel name =>
    by_cases hk : p.workers.findIdx? (runs name) = none ∧
        p.workers.findIdx? (queues name) = some i
    · rw [withdrawnBy, if_pos hk, filter_not_mem_filter]
      exact List.perm_append_comm.trans (List.filter_append_perm _ _)
    · exact hnone (if_neg hk)
  | _ => exact hnone rfl

/-- An action lets the first of those that are lined up have the worker, in order, and others only
when nobody waits for it any more. -/
theorem admittedBy_step (s : PoolSettings) (n : Nat) (as : List Action) (a : Action) (i : Nat) :
    lined i ((launched s n).after as) a =
      admittedBy i ((launched s n).after as) a ++ queueOf i (((launched s n).after as).step a).2 ∧
    ∃ later, getters i (((launched s n).after as).step a).2.effects =
        admittedBy i ((launched s n).after as) a ++ later ∧
      (queueOf i (((launched s n).after as).step a).2 ≠ [] → later = []) := by
  have hs := sound_after s n as
  have ht := hasTurns_after s n as
  have hr : ((launched s n).after as).ready = [] := ready_after rfl as
  have ht' := hasTurns_after s n (as ++ [a])
  have hr' : ((launched s n).after (as ++ [a])).ready = [] := ready_after rfl (as ++ [a])
  rw [after_concat] at ht' hr'
  obtain ⟨front, back, ⟨taken, later, hgot, hparts, hback, hempty⟩, hcases⟩ :=
    lines_step ht hr hs i a
  rw [lineOf_of_settled ht' hr'] at hparts hempty
  unfold admittedBy
  rcases hcases with ⟨rfl, rfl⟩ | ⟨rfl, hnobody⟩
  · rw [List.nil_append] at hparts
    have htake : (taken ++ queueOf i (((launched s n).after as).step a).2).take
        ((taken ++ queueOf i (((launched s n).after as).step a).2).length -
          (queueOf i (((launched s n).after as).step a).2).length) = taken := by
      rw [List.length_append, Nat.add_sub_cancel, List.take_left]
    rw [hparts, htake]
    exact ⟨rfl, later, hgot, hempty⟩
  · have hnil := List.suffix_nil.1 hback
    rw [hnobody, hnil]
    exact ⟨rfl, _, rfl, fun hne => absurd rfl hne⟩

/-- In every run the calls that queue on worker `i` get it in the order in which they came: those
that got it and those that still wait are what joined the queue without what was cancelled in it.
And nobody overtakes them: the first calls that get the worker in an action are those of the queue,
in order, and another call gets it only when nobody waits for the worker any more. -/
theorem first_come_first_served (s : PoolSettings) (n : Nat) (as : List Action) (i : Nat) :
    (admitted i (launched s n) as ++ queueOf i ((launched s n).after as)).Sublist
      (queued i (launched s n) as) ∧
    (admitted i (launched s n) as ++ queueOf i ((launched s n).after as) ++
      withdrawn i (launched s n) as).Perm (queued i (launched s n) as) ∧
    ∀ a, lined i ((launched s n).after as) a =
        admittedBy i ((launched s n).after as) a ++ queueOf i (((launched s n).after as).step a).2 ∧
      ∃ later, getters i (((launched s n).after as).step a).2.effects =
          admittedBy i ((launched s n).after as) a ++ later ∧
        (queueOf i (((launched s n).after as).step a).2 ≠ [] → later = []) := by
  refine ⟨?_, ?_, fun a => admittedBy_step s n as a i⟩
  · induction as using List.reverseRecOn with
    | nil =>
      have hnobody : queueOf i (launched s n) = [] := queueOf_launched s n i
      simp [admitted, queued, hnobody]
    | append_singleton as a ih =>
      obtain ⟨hlined, -⟩ := admittedBy_step s n as a i
      rw [admitted, queued, along_concat, along_concat, after_concat, List.append_assoc, ← hlined,
        lined, ← List.append_assoc]
      exact ((List.Sublist.append_left List.filter_sublist _).trans ih).append_right _
  · induction as using List.reverseRecOn with
    | nil =>
      have hnobody : queueOf i (launched s n) = [] := queueOf_launched s n i
      simp [admitted, queued, withdrawn, hnobody]
    | append_singleton as a ih =>
      obtain ⟨hlined, -⟩ := admittedBy_step s n as a i
      set p := (launched s n).after as
      have hperm : (admitted i (launched s n) as ++ lined i p a ++
          (withdrawn i (launched s n) as ++ withdrawnBy i p a)).Perm
          (admitted i (launched s n) as ++ queueOf i p ++ withdrawn i (launched s n) as ++
            queuedBy i p a) := by
        refine List.perm_iff_count.2 fun x => ?_
        have hcount := (withdrawnBy_perm i p a).count_eq x
        rw [List.count_append] at hcount
        simp only [lined, List.count_append]
        omega
      rw [admitted, queued, withdrawn, along_concat, along_concat, along_concat, after_concat,
        List.append_assoc (along _ _ as), ← hlined]
      exact hperm.trans (ih.append_right _)

/-- One of two calls that wait for a worker is cancelled; the other gets the worker before a call
that has waited for any worker. -/
example : getters 0 (history (launched .plain 1) [.dispatch (.plain "a"), .dispatch (.plain "b"),
    .handle 0 (.plain "c"), .handle 0 (.plain "d"), .cancel "c", .advance 250]) =
      [.plain "a", .plain "d", .plain "b"] := by
  decide +kernel

end Pool

end FunctionHost
