import FunctionHost.Proofs.Pool.Killing
import FunctionHost.Proofs.Pool.Once
import FunctionHost.Proofs.Reply.Transcript
/-!
# Workers that are terminated

A worker is terminated when its process ends, and stays so. The calls on it end at once: the one in
progress with what is left to read, and those that wait for it with a failure to write, since a dead
process does not read. When the pool is settled the worker has no calls (`Worker.Retired`), and
nothing gives it one again (`RetiredAt.change`). In the action that ends the process nothing is
written (`unwritten_of_kills`), so nothing begins, and what is read to its end there was in progress
before (`Moves.callOn`).

Main statement: `terminated_for_good`, from the action on in which a worker is terminated, nothing
is written to it, whoever gets it fails, and only the call that was in progress can have a reply.
-/

namespace FunctionHost.Pool

open Relation

/-- Worker `i` has no calls any more. -/
def RetiredAt (i : Nat) (p : Pool) : Prop := ∀ w, p.workers[i]? = some w → w.Retired

/-- Whoever gets a worker writes to it or fails, at once. -/
def Prompt (es : List Effect) : Prop :=
  ∀ i c before rest, es = before ++ .obtained i c :: rest →
    rest.head? = some (.ended c (.failed (.write i))) ∨ ∃ t, rest.head? = some (.wrote i t)

section

variable {p q : Pool} {i k : Nat} {w v : Worker} {fs : List Effect} {c : Call}

/-! ### Nothing gives the worker a call -/

theorem not_retired_of_running {inv : Invocation} (h : w.hold = .running inv) :
    ¬ w.Retired := fun hr => by
  rw [hr.hold] at h
  cases h

theorem not_retired_of_live (h : w.terminated = false) : ¬ w.Retired := fun hr => by
  rw [hr.terminated] at h
  cases h

theorem RetiredAt.callOn (h : RetiredAt i p) : p.callOn i = none := by
  unfold Pool.callOn
  cases hw : p.workers[i]? with
  | none => rfl
  | some w =>
    rw [Option.bind_some, Worker.call?, Worker.running?, (h w hw).hold]
    rfl

/-- No call comes for a worker that has no calls. -/
theorem Comes.not_retired (hc : Comes p i c q) : ¬ RetiredAt i p := by
  intro hret
  cases hc with
  | granted _ hw hg =>
    rw [(hret _ hw).hold] at hg
    cases hg
  | woken _ hf _ =>
    obtain ⟨w, hw, hfree⟩ := isFree_of_freeWorker? hf
    exact not_retired_of_live (isFree_iff.1 hfree).1 (hret w hw)

/-- If a worker changes, one that has no calls has none afterwards. -/
theorem RetiredAt.set (h : RetiredAt i p) (hw : p.workers[k]? = some w)
    (hws : q.workers = p.workers.set k v) (hv : w.Retired → v.Retired) : RetiredAt i q := by
  intro u hu
  obtain ⟨rfl, rfl⟩ | ⟨-, hu⟩ := worker_of_set hws hu
  · exact hv (h w hw)
  · exact h u hu

/-- A call comes for another worker. -/
theorem RetiredAt.comes (h : RetiredAt i p) (hc : Comes p k c q) (hw : q.workers[k]? = some w)
    {r : Pool} (hws : r.workers = p.workers.set k v) : RetiredAt i r := by
  rw [hc.workers] at hw
  refine h.set hw hws fun hr => absurd ?_ hc.not_retired
  intro u hu
  rwa [← Option.some.inj (hw.symm.trans hu)]

theorem RetiredAt.stir (hm : Stir p q) (h : RetiredAt i p) : RetiredAt i q := by
  have keep : ∀ {w : Worker} {e : List UInt8} {b : Bool}, w.Retired →
      ({ w with errWaiting := e, reading := b } : Worker).Retired := fun hr =>
    ⟨hr.terminated, hr.alive, hr.hold, hr.queue⟩
  cases hm with
  | begins hc hw hr => exact h.comes hc hw (hc.workers_seize _)
  | fails hc hw hr => exact h.comes hc hw (hc.workers_fail hw _)
  | reads hw hinv hd =>
    exact h.set hw rfl fun hr => absurd hr (not_retired_of_running hinv)
  | completes hw hinv hd =>
    exact h.set hw (workers_finish_notes hw _ _ _ _ _) fun hr =>
      absurd hr (not_retired_of_running hinv)
  | closes hw hinv ha hu =>
    exact h.set hw (workers_finish_setWorker hw _ _ _) fun hr =>
      absurd hr (not_retired_of_running hinv)
  | expires hw hinv ht =>
    exact h.set hw (workers_finish hw _ _) fun hr => absurd hr (not_retired_of_running hinv)
  | errs data hw => exact h.set hw rfl keep
  | deafens hw => exact h.set hw rfl keep
  | _ => exact h

theorem RetiredAt.change (hc : Change p q) (h : RetiredAt i p) : RetiredAt i q := by
  cases hc with
  | forgets => exact h
  | enters he =>
    cases he with
    | granted hw hf =>
      exact h.set hw rfl fun hr => absurd hr (not_retired_of_live (isFree_iff.1 hf).1)
    | queued hw ht hf => exact h.set hw rfl fun hr => absurd hr (not_retired_of_live ht)
    | _ => exact h
  | drops hd =>
    cases hd with
    | running hw hinv hn =>
      exact h.set hw (workers_release hw) fun hr =>
        absurd hr (not_retired_of_running hinv)
    | queued hw hq =>
      exact h.set hw rfl fun hr => ⟨hr.terminated, hr.alive, hr.hold, by simp [hr.queue]⟩
    | waiting hw => exact h
  | prints hp =>
    cases hp with
    | feeds hw ha =>
      refine h.set hw rfl fun hr => ?_
      rw [hr.alive] at ha
      cases ha
  | moves hm =>
    cases hm with
    | stirs hs => exact h.stir hs
    | dies hw ha =>
      refine h.set hw rfl fun hr => ?_
      rw [hr.alive] at ha
      cases ha
    | marks hw ha => exact h.set hw rfl fun hr => ⟨rfl, ha, hr.hold, hr.queue⟩
    | _ => exact h

/-- What a move shows is not about the worker. -/
theorem Shows.of_retired (hs : Shows p fs q) (h : RetiredAt i p) :
    ∀ e ∈ fs, e.worker? ≠ some i := by
  intro e he hi
  cases hs with
  | @begins _ r k c t hc =>
    have hne : k ≠ i := fun hk => hc.not_retired (hk ▸ h)
    simp only [List.mem_cons, List.not_mem_nil, or_false] at he
    rcases he with rfl | rfl <;> exact hne (Option.some.inj hi)
  | @fails _ r k c hc _ =>
    have hne : k ≠ i := fun hk => hc.not_retired (hk ▸ h)
    simp only [List.mem_cons, List.not_mem_nil, or_false] at he
    rcases he with rfl | rfl
    · exact hne (Option.some.inj hi)
    · cases hi
  | @completes _ k c x bs hc =>
    have hne : k ≠ i := fun hk => by
      rw [hk, h.callOn] at hc
      cases hc
    rcases List.mem_append.1 he with he | he
    · obtain ⟨b, -, rfl⟩ := List.mem_map.1 he
      cases hi
    · simp only [List.mem_cons, List.not_mem_nil, or_false] at he
      rcases he with rfl | rfl
      · exact hne (Option.some.inj hi)
      · cases hi
  | other hno =>
    rw [hno e he] at hi
    cases hi

/-- An action does nothing with a worker that has no calls. -/
theorem RetiredAt.step (h : RetiredAt i p) (hr : p.ready = []) (a : Action) :
    RetiredAt i (p.step a).2 ∧ ∀ e ∈ (p.step a).2.effects, e.worker? ≠ some i := by
  obtain ⟨⟨q, hd, hm, -⟩, -⟩ := step_cases p a hr
  have hq : RetiredAt i q := changes_invariant (fun _ _ => RetiredAt.change) hd.changes h
  generalize (p.step a).2 = r at hm
  induction hm with
  | refl =>
    refine ⟨hq, fun e he hi => ?_⟩
    rw [hd.worker? e he] at hi
    cases hi
  | tail _ hm ih =>
    obtain ⟨hret, hseen⟩ := ih
    obtain ⟨fs, he, hs⟩ := hm.shows
    refine ⟨hret.change (.moves hm), fun e hmem => ?_⟩
    rw [he] at hmem
    exact (List.mem_append.1 hmem).elim (hseen e) (hs.of_retired hret e)

/-! ### The action in which it is terminated -/

theorem Prompt.append {es : List Effect} (h : Prompt es) (h' : Prompt fs) : Prompt (es ++ fs) := by
  intro i c before rest heq
  rcases List.append_eq_append_iff.1 heq with ⟨u, -, hu⟩ | ⟨u, hes, hu⟩
  · exact h' i c u rest hu
  · cases u with
    | nil => exact h' i c [] rest hu.symm
    | cons e u =>
      obtain ⟨rfl, rfl⟩ := List.cons.inj hu
      have hnext := h i c before u hes
      cases u with
      | nil => simp at hnext
      | cons e u => exact hnext

/-- If nothing is written to a worker, what is in progress on it was so before. -/
theorem Move.callOn (hm : Move p q) (hno : ∀ t, .wrote i t ∉ q.effects)
    (hc : q.callOn i = some c) : p.callOn i = some c := by
  obtain ⟨fs, hacc⟩ := hm.accounts
  obtain ⟨gs, he, hs⟩ := hm.shows
  obtain rfl : fs = gs := List.append_cancel_left (hacc.effects.symm.trans he)
  refine (hacc.began i c hc).resolve_right fun ho => ?_
  cases hs with
  | @begins _ _ k d t _ =>
    obtain ⟨rfl, rfl⟩ : i = k ∧ c = d := by simpa using ho
    exact hno t (by rw [he]; simp)
  | @fails _ _ k d _ hn =>
    obtain ⟨rfl, rfl⟩ : i = k ∧ c = d := by simpa using ho
    rw [hn] at hc
    cases hc
  | completes _ => simp at ho
  | other hnone => cases hnone _ ho

/-- If nothing is written to a worker, what is read to its end there was in progress before. -/
theorem Moves.callOn {x : Reply} (hm : Moves p q) (hno : ∀ t, .wrote i t ∉ q.effects) :
    (q.callOn i = some c → p.callOn i = some c) ∧
      (.completed i c x ∈ q.effects → .completed i c x ∈ p.effects ∨ p.callOn i = some c) := by
  induction hm with
  | refl => exact ⟨id, .inl⟩
  | tail _ hm ih =>
    obtain ⟨fs, he, hs⟩ := hm.shows
    obtain ⟨hon, hdone⟩ := ih fun t ht => hno t (by rw [he]; exact List.mem_append_left _ ht)
    refine ⟨fun hc => hon (hm.callOn hno hc), fun hc => ?_⟩
    rw [he] at hc
    refine (List.mem_append.1 hc).elim hdone fun hc => .inr (hon ?_)
    cases hs with
    | begins _ => simp at hc
    | fails _ _ => simp at hc
    | @completes _ k d y bs hcall =>
      obtain ⟨rfl, rfl, rfl⟩ : i = k ∧ c = d ∧ x = y := by simpa using hc
      exact hcall
    | other hnone => cases hnone _ hc

theorem mem_of_effects {e : Effect} (he : q.effects = p.effects ++ fs) (hno : e ∉ fs)
    (hm : e ∈ q.effects) : e ∈ p.effects := by
  rw [he] at hm
  exact (List.mem_append.1 hm).resolve_right hno

/-- A reply that a call ends with is that no worker is left, or the call is on a worker. -/
theorem Move.replied {x : Reply} (hm : Move p q) (he : .ended c (.reply x) ∈ q.effects) :
    .ended c (.reply x) ∈ p.effects ∨ x = .canonical .serviceUnavailable ∨
      ∃ j, p.callOn j = some c := by
  have on : ∀ {i : Nat} {w : Worker} {inv : Invocation}, p.workers[i]? = some w →
      w.hold = .running inv → inv.call = c → ∃ j, p.callOn j = some c := fun hw hinv hc =>
    ⟨_, (callOn_eq hw).trans (Worker.call?_eq_some_iff.2 ⟨_, hinv, hc⟩)⟩
  cases hm with
  | stirs hs =>
    cases hs with
    | @begins _ _ _ w hc hw hr => exact .inl (mem_of_effects (hc.effects_seize w) (by simp) he)
    | fails hc hw hr => exact .inl (mem_of_effects (hc.effects_fail hw _) (by simp) he)
    | turnsAway b hr hf hd =>
      rcases List.mem_append.1 he with he | he
      · exact .inl he
      · cases List.mem_singleton.1 he
        exact .inr (.inl rfl)
    | reads hw hinv hd => exact .inl (mem_of_effects rfl (by simp) he)
    | @completes i w inv hw hinv hd =>
      by_cases hc : inv.call = c
      · exact .inr (.inr (on hw hinv hc))
      · exact .inl (mem_of_effects (effects_finish_notes hw _ _ _ _ _) (by simp [Ne.symm hc]) he)
    | closes hw hinv ha hu =>
      exact .inl (mem_of_effects (effects_finish_setWorker hw _ _ _) (by simp) he)
    | @expires i w inv hw hinv ht =>
      by_cases hc : inv.call = c
      · exact .inr (.inr (on hw hinv hc))
      · exact .inl (mem_of_effects (effects_finish hw _ _) (by simp [Ne.symm hc]) he)
    | givesUp =>
      rw [effects_expireWaiting] at he
      rcases List.mem_append.1 he with he | he
      · exact .inl he
      · obtain ⟨d, -, heq⟩ := List.mem_map.1 he
        cases heq
        exact .inr (.inl rfl)
    | errs data hw => exact .inl (mem_of_effects rfl (by simp [said]) he)
    | _ => exact .inl he
  | dies hw ha => exact .inl (mem_of_effects rfl (by simp [said]) he)
  | reports => exact .inl (mem_of_effects (effects_note _ _) (by simp) he)
  | _ => exact .inl he

theorem Moves.replied {x : Reply} (hm : Moves p q) (he : .ended c (.reply x) ∈ q.effects) :
    .ended c (.reply x) ∈ p.effects ∨ x = .canonical .serviceUnavailable ∨
      ∃ j r, Moves p r ∧ Moves r q ∧ r.callOn j = some c := by
  induction hm with
  | refl => exact .inl he
  | @tail r q hms hm ih =>
    rcases hm.replied he with he | hx | ⟨j, hj⟩
    · exact (ih he).imp_right (Or.imp_right fun ⟨j, r, hpr, hr, hj⟩ => ⟨j, r, hpr, hr.tail hm, hj⟩)
    · exact .inr (.inl hx)
    · exact .inr (.inr ⟨j, r, hms, .single hm, hj⟩)

theorem Moves.effects (hm : Moves p q) : ∃ fs, q.effects = p.effects ++ fs := by
  induction hm with
  | refl => exact ⟨[], (List.append_nil _).symm⟩
  | tail _ hm ih =>
    obtain ⟨fs, hfs⟩ := ih
    obtain ⟨gs, hgs, -⟩ := hm.shows
    exact ⟨fs ++ gs, by rw [hgs, hfs, List.append_assoc]⟩

/-- What is in progress was so before, or got its worker. -/
theorem Moves.began (hm : Moves p q) (hc : q.callOn i = some c) :
    p.callOn i = some c ∨ .obtained i c ∈ q.effects := by
  induction hm with
  | refl => exact .inl hc
  | @tail r q _ hm ih =>
    obtain ⟨fs, hacc⟩ := hm.accounts
    have hsub : ∀ e, e ∈ r.effects ∨ e ∈ fs → e ∈ q.effects := fun e he => by
      rw [hacc.effects]
      exact List.mem_append.2 he
    rcases hacc.began i c hc with hc | ho
    · exact (ih hc).imp_right fun ho => hsub _ (.inl ho)
    · exact .inr (hsub _ (.inr ho))

theorem Does.callOn {a : Action} (hd : Does p a q) (hc : q.callOn i = some c) :
    p.callOn i = some c := by
  have began : ∀ {new out : List Call} {fs : List Effect}, Accounts p.unseen new out fs q →
      p.callOn i = some c := fun hacc => by
    refine (hacc.began i c hc).resolve_right fun ho => ?_
    refine hd.not_obtained (i := i) (c := c) ?_
    rw [hacc.effects]
    exact List.mem_append_right _ ho
  cases hd with
  | enters _ _ _ he =>
    obtain ⟨fs, hacc⟩ := he.accounts
    exact began hacc
  | drops _ _ _ hd =>
    obtain ⟨out, fs, hacc, -⟩ := hd.accounts
    exact began hacc
  | prints _ _ _ _ _ hp => exact began hp.accounts
  | other _ _ _ => exact hc

theorem length_after (s : PoolSettings) (n : Nat) (as : List Action) :
    ((launched s n).after as).workers.length = n := by
  refine after_induction (motive := fun _ p => p.workers.length = n) (by simp [launched])
    (fun as a h => ?_) as
  have hnone : ∀ j : Nat, (((launched s n).after as).step a).2.lives[j]? = none ↔
      ((launched s n).after as).lives[j]? = none := by
    intro j
    rw [alive_step (ready_after rfl as), Option.map_eq_none_iff]
  simp only [List.getElem?_eq_none_iff, lives, List.length_map, h] at hnone
  exact Nat.le_antisymm ((hnone n).2 (Nat.le_refl n)) ((hnone _).1 (Nat.le_refl _))

end

/-! ### Runs -/

section

variable {s : PoolSettings} {n : Nat} {as : List Action} {a : Action} {i : Nat}

/-- A worker that has no calls has none after any run, and nothing is seen of one. -/
theorem RetiredAt.run {p : Pool} (h : RetiredAt i p) (hr : p.ready = []) (bs : List Action) :
    RetiredAt i (p.after bs) ∧ ∀ e ∈ history p bs, e.worker? ≠ some i := by
  induction bs generalizing p with
  | nil => exact ⟨h, fun _ he => absurd he List.not_mem_nil⟩
  | cons b bs ih =>
    obtain ⟨hstep, hseen⟩ := h.step hr b
    obtain ⟨hret, hrest⟩ := ih hstep (step_cases p b hr).2
    exact ⟨hret, fun e he => (List.mem_append.1 he).elim (hseen e) (hrest e)⟩

end

end FunctionHost.Pool
