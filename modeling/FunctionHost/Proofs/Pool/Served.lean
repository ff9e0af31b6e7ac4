import FunctionHost.Proofs.Pool.Exclusive
/-!
# Calls and their one worker

If no call is made twice in a run, a call that comes for a worker has had none before
(`Ledger.fresh`), so a call gets one worker at most. What is seen of a call then agrees (`Served`):
a completed reply is what the call ends with, and a call that ends with any other reply ran out of
time or never had a worker.

Main statement: `served_after`, this is so after every run.
-/

namespace FunctionHost.Pool

/-! ### What the ledger says of calls that come -/

section

variable {made gone : List Call} {es : List Effect} {p q : Pool} {c : Call}

theorem Ledger.mem_made (h : Ledger made gone es p) (hc : c ∈ p.calls) : c ∈ made := by
  have hbalance := h.balance c
  have hpos := List.count_pos_iff.2 hc
  exact List.count_pos_iff.1 (by omega)

/-- What got a worker was made. -/
theorem Ledger.mem_made_of_obtained (h : Ledger made gone es p) {i : Nat}
    (ho : .obtained i c ∈ es ++ p.effects) : c ∈ made := by
  have hbalance := h.balance c
  rcases h.obtained i c ho with hr | he | hg
  · obtain ⟨w, hw, hc⟩ := mem_calls_of_worker (p := p) hr
    exact h.mem_made (List.mem_append_left _
      (mem_callsOn_iff.2 ⟨i, w, hw, List.mem_append_left _ hc⟩))
  · have hpos := List.count_pos_iff.2 he
    exact List.count_pos_iff.1 (by omega)
  · have hpos := List.count_pos_iff.2 hg
    exact List.count_pos_iff.1 (by omega)

variable (hmade : made.Nodup)
include hmade

/-- A call that is held has not ended, and has had no worker but one on which it is in progress. -/
theorem Ledger.held (h : Ledger made gone es p) (hc : c ∈ p.calls) :
    c ∉ endings (es ++ p.effects) ∧
      ∀ i, .obtained i c ∈ es ++ p.effects → p.callOn i = some c := by
  have hbalance := h.balance c
  have hle := List.nodup_iff_count_le_one.1 hmade c
  have hpos := List.count_pos_iff.2 hc
  have hended : c ∉ endings (es ++ p.effects) := fun he => by
    have := List.count_pos_iff.2 he
    omega
  have hgone : c ∉ gone := fun hg => by
    have := List.count_pos_iff.2 hg
    omega
  exact ⟨hended, fun i ho => ((h.obtained i c ho).resolve_right fun hn => hn.elim hended hgone)⟩

/-- A call in a line has not ended and has had no worker. -/
theorem Ledger.fresh_of_line (h : Ledger made gone es p)
    (hc : c ∈ p.waiting.map (·.call) ++ p.ready.flatMap Turn.calls) :
    c ∉ endings (es ++ p.effects) ∧ ∀ i, .obtained i c ∉ es ++ p.effects := by
  obtain ⟨hended, hon⟩ := h.held hmade (List.mem_append_right _ hc)
  refine ⟨hended, fun i ho => ?_⟩
  obtain ⟨w, hw, hcw⟩ := mem_calls_of_worker (p := p) (hon i ho)
  have hpos := List.count_pos_iff.2
    (mem_callsOn_iff.2 ⟨i, w, hw, List.mem_append_left w.queue hcw⟩)
  have hline := List.count_pos_iff.2 hc
  have hbalance := h.balance c
  have hle := List.nodup_iff_count_le_one.1 hmade c
  rw [calls, List.count_append] at hbalance
  omega

omit hmade in
/-- A call that comes for a worker is held. -/
theorem Comes.mem_calls {i : Nat} (hc : Comes p i c q) : c ∈ p.calls := by
  cases hc with
  | @granted ts w hr hw hg =>
    refine List.mem_append_left _ (mem_callsOn_iff.2 ⟨i, w, hw, List.mem_append_left _ ?_⟩)
    rw [hg]
    exact List.mem_singleton_self _
  | @woken ts d hr hf hd =>
    refine List.mem_append_right _ (List.mem_append_right _ ?_)
    rw [hr, List.flatMap_cons, ← hd]
    exact List.mem_append_left _ (List.mem_singleton_self _)

/-- A call that comes for a worker has not ended and has had none. -/
theorem Ledger.fresh (h : Ledger made gone es p) {i : Nat} (hc : Comes p i c q) :
    c ∉ endings (es ++ p.effects) ∧ ∀ k, .obtained k c ∉ es ++ p.effects := by
  obtain ⟨hended, hrun⟩ := h.held hmade hc.mem_calls
  cases hc with
  | @granted ts w hr hw hg =>
    have hcw : c ∈ w.hold.calls := by
      rw [hg]
      exact List.mem_singleton_self _
    refine ⟨hended, fun k ho => ?_⟩
    obtain ⟨v, hv, hcv⟩ := Option.bind_eq_some_iff.1 (hrun k ho)
    obtain ⟨inv, hinv, hcall⟩ := Worker.call?_eq_some_iff.1 hcv
    have hnodup : (callsOn p.workers).Nodup := List.nodup_iff_count_le_one.2 fun x => by
      have hbalance := h.balance x
      have hle := List.nodup_iff_count_le_one.1 hmade x
      rw [count_calls] at hbalance
      omega
    have hmem : c ∈ v.hold.calls := by
      rw [hinv, Hold.calls, hcall]
      exact List.mem_singleton_self _
    -- the worker that was granted to the call is the one that runs it, but it is not running yet
    have hik : i = k := worker_eq_of_nodup hnodup hw hv (List.mem_append_left _ hcw)
      (List.mem_append_left _ hmem)
    subst hik
    rw [Option.some.inj (hv.symm.trans hw), hg] at hinv
    cases hinv
  | @woken ts d hr hf hd =>
    refine h.fresh_of_line hmade (List.mem_append_right _ ?_)
    rw [hr, List.flatMap_cons, ← hd]
    exact List.mem_append_left _ (List.mem_singleton_self _)

end

/-! ### What is seen of a call -/

/-- What is seen of a call agrees. -/
structure Served (E : List Effect) : Prop where
  /-- A call gets one worker at most. -/
  once : ∀ i j c, .obtained i c ∈ E → .obtained j c ∈ E → i = j
  /-- A reply is completed on the call's worker, and the call ends with it. -/
  completed : ∀ i c r, .completed i c r ∈ E → .obtained i c ∈ E ∧ .ended c (.reply r) ∈ E
  /-- A reply that a call ends with was completed, unless its time was up or it had no worker. -/
  replied : ∀ c r, .ended c (.reply r) ∈ E → (∃ i, .completed i c r ∈ E) ∨
    r = .canonical .requestTimeout ∨ ∀ i, .obtained i c ∉ E

section

variable {E fs : List Effect}

/-- What is seen next agrees too if a call that gets a worker is new, and replies are as they
should be. -/
theorem Served.append (h : Served E)
    (hnew : ∀ i c, .obtained i c ∈ fs → c ∉ endings E ∧ (∀ k, .obtained k c ∉ E) ∧
      ∀ k, .obtained k c ∈ fs → k = i)
    (hcompleted : ∀ i c r, .completed i c r ∈ fs → .obtained i c ∈ E ∧ .ended c (.reply r) ∈ fs)
    (hreplied : ∀ c r, .ended c (.reply r) ∈ fs → (∃ i, .completed i c r ∈ fs) ∨
      r = .canonical .requestTimeout ∨ ∀ i, .obtained i c ∉ E ++ fs) : Served (E ++ fs) := by
  refine ⟨fun i j c hi hj => ?_, fun i c r hc => ?_, fun c r he => ?_⟩
  · rcases List.mem_append.1 hi with hi | hi <;> rcases List.mem_append.1 hj with hj | hj
    · exact h.once i j c hi hj
    · exact absurd hi ((hnew j c hj).2.1 i)
    · exact absurd hj ((hnew i c hi).2.1 j)
    · exact (hnew j c hj).2.2 i hi
  · rcases List.mem_append.1 hc with hc | hc
    · obtain ⟨ho, he⟩ := h.completed i c r hc
      exact ⟨List.mem_append_left _ ho, List.mem_append_left _ he⟩
    · obtain ⟨ho, he⟩ := hcompleted i c r hc
      exact ⟨List.mem_append_left _ ho, List.mem_append_right _ he⟩
  · rcases List.mem_append.1 he with he | he
    · refine (h.replied c r he).imp (fun ⟨i, hi⟩ => ⟨i, List.mem_append_left _ hi⟩)
        (Or.imp_right fun hno i hi => ?_)
      -- a call that has ended gets no worker afterwards
      rcases List.mem_append.1 hi with hi | hi
      · exact hno i hi
      · exact (hnew i c hi).1 (mem_endings_iff.2 ⟨_, he⟩)
    · exact (hreplied c r he).imp_left fun ⟨i, hi⟩ => ⟨i, List.mem_append_right _ hi⟩

/-- Nothing is seen of workers and replies. -/
theorem Served.append_other (h : Served E) (hno : ∀ i c, .obtained i c ∉ fs)
    (hcompleted : ∀ i c r, .completed i c r ∉ fs) (hended : ∀ c r, .ended c (.reply r) ∉ fs) :
    Served (E ++ fs) :=
  h.append (fun i c ho => absurd ho (hno i c)) (fun i c r hc => absurd hc (hcompleted i c r))
    fun c r he => absurd he (hended c r)

/-- Calls end that had no worker. -/
theorem Served.append_unserved (h : Served E) (hno : ∀ i c, .obtained i c ∉ fs)
    (hcompleted : ∀ i c r, .completed i c r ∉ fs)
    (hended : ∀ c o, .ended c o ∈ fs → ∀ i, .obtained i c ∉ E) : Served (E ++ fs) := by
  refine h.append (fun i c ho => absurd ho (hno i c))
    (fun i c r hc => absurd hc (hcompleted i c r)) fun c r he => .inr (.inr fun i hi => ?_)
  rcases List.mem_append.1 hi with hi | hi
  · exact hended c _ he i hi
  · exact hno i c hi

end

section

variable {made gone : List Call} {es fs : List Effect} {p q : Pool}

theorem Served.seen (he : q.effects = p.effects ++ fs) (h : Served (es ++ p.effects ++ fs)) :
    Served (es ++ q.effects) := by
  rwa [he, ← List.append_assoc]

variable (hmade : made.Nodup)
include hmade

theorem Served.stir (hl : Ledger made gone es p) (hm : Stir p q) (h : Served (es ++ p.effects)) :
    Served (es ++ q.effects) := by
  cases hm with
  | @begins q i c w hc hw hr =>
    obtain ⟨hended, hob⟩ := hl.fresh hmade hc
    refine .seen (hc.effects_seize w) (h.append ?_ (by simp) (by simp))
    intro k d hk
    obtain ⟨rfl, rfl⟩ : k = i ∧ d = c := by simpa using hk
    exact ⟨hended, hob, by simp⟩
  | @fails q i c w hc hw hr =>
    obtain ⟨hended, hob⟩ := hl.fresh hmade hc
    refine .seen (hc.effects_fail hw _) (h.append ?_ (by simp) (by simp))
    intro k d hk
    obtain ⟨rfl, rfl⟩ : k = i ∧ d = c := by simpa using hk
    exact ⟨hended, hob, by simp⟩
  | @turnsAway d ts b hr hf hd =>
    refine .seen (effects_note _ _) (h.append_unserved (by simp) (by simp) ?_)
    intro c o he
    obtain ⟨rfl, -⟩ : c = d.call ∧ o = unavailable := by simpa using he
    refine (hl.fresh_of_line hmade (List.mem_append_right _ ?_)).2
    rw [hr, List.flatMap_cons]
    exact List.mem_append_left _ (List.mem_singleton_self _)
  | reads hw hinv hd =>
    exact .seen rfl (h.append_other (by simp) (by simp) (by simp))
  | @completes i w inv hw hinv hd =>
    have hcall : p.callOn i = some inv.call :=
      (callOn_eq hw).trans (Worker.call?_eq_some_iff.2 ⟨inv, hinv, rfl⟩)
    refine .seen (effects_finish_notes hw _ _ _ _ _) (h.append (by simp) ?_ ?_)
    · intro k c y hy
      obtain ⟨rfl, rfl, rfl⟩ :
          k = i ∧ c = inv.call ∧ y = (inv.decoder.run w.unread).decoder.reply := by simpa using hy
      exact ⟨hl.running _ _ hcall, by simp⟩
    · intro c y hy
      obtain ⟨rfl, rfl⟩ : c = inv.call ∧ y = (inv.decoder.run w.unread).decoder.reply := by
        simpa using hy
      exact .inl ⟨i, by simp⟩
  | @closes i w inv hw hinv ha hu =>
    exact .seen (effects_finish_setWorker hw _ _ _) (h.append_other (by simp) (by simp) (by simp))
  | @expires i w inv hw hinv ht =>
    refine .seen (effects_finish hw _ _) (h.append (by simp) (by simp) ?_)
    intro c y hy
    obtain ⟨-, rfl⟩ : c = inv.call ∧ y = .canonical .requestTimeout := by
      simpa [timedOut] using hy
    exact .inr (.inl rfl)
  | givesUp =>
    refine .seen (effects_expireWaiting p _) (h.append_unserved (by simp) (by simp) ?_)
    intro c o he
    obtain ⟨d, hd, heq⟩ := List.mem_map.1 he
    cases heq
    exact (hl.fresh_of_line hmade (List.mem_append_left _
      (List.mem_map_of_mem (List.mem_of_mem_filter hd)))).2
  | errs data hw =>
    exact .seen rfl (h.append_other (not_mem_said _ _) (by simp [said]) (by simp [said]))
  | _ => exact h

theorem Served.move (hl : Ledger made gone es p) (hm : Move p q) (h : Served (es ++ p.effects)) :
    Served (es ++ q.effects) := by
  cases hm with
  | stirs hs => exact h.stir hmade hl hs
  | dies hw ha =>
    exact .seen rfl (h.append_other (not_mem_said _ _) (by simp [said]) (by simp [said]))
  | @reports i =>
    exact .seen (effects_note _ _) (h.append_other (by simp) (by simp) (by simp))
  | _ => exact h

end

theorem Served.does {p q : Pool} {a : Action} {E : List Effect} (hd : Does p a q) (h : Served E) :
    Served (E ++ q.effects) := by
  have hnone : Served (E ++ p.unseen.effects) := by
    rw [unseen, List.append_nil]
    exact h
  cases hd with
  | @enters c _ _ _ _ he =>
    cases he with
    | @rejected i w o hw ho =>
      have hno : ∀ d r, .ended d (.reply r) ∉ [Effect.ended c o] := by
        intro d r hr
        obtain ⟨-, rfl⟩ : d = c ∧ .reply r = o := by simpa using hr
        rcases ho with ⟨-, ho⟩ | ⟨-, ho⟩ <;> cases ho
      have hrejected : Served (E ++ [.ended c o]) := h.append_other (by simp) (by simp) hno
      exact hrejected
    | _ => exact hnone
  | drops _ _ _ hd =>
    cases hd with
    | running hw hinv hn => rwa [effects_release hw]
    | _ => exact hnone
  | prints _ _ _ _ _ hp =>
    cases hp with
    | feeds hw ha => exact hnone
  | other _ _ _ => exact hnone

/-! ### Runs -/

/-- What holds of a newly launched pool, and is kept by what an action does and by every move of a
pool with a right ledger, holds after every run. The statement may be about all that was seen. -/
theorem seen_induction (s : PoolSettings) (n : Nat)
    {motive : List Action → List Effect → Pool → Prop} (start : motive [] [] (launched s n))
    (does : ∀ as a q, Does ((launched s n).after as) a q →
      motive as (history (launched s n) as) ((launched s n).after as) →
      motive (as ++ [a]) (history (launched s n) as ++ q.effects) q)
    (move : ∀ {as : List Action} {gone : List Call} {es : List Effect} {p q : Pool},
      Ledger (made (launched s n) as) gone es p → p.Sound → Move p q →
      motive as (es ++ p.effects) p → motive as (es ++ q.effects) q) (as : List Action) :
    motive as (history (launched s n) as) ((launched s n).after as) := by
  refine after_induction (motive := fun as p => motive as (history (launched s n) as) p) start ?_ as
  intro as a h
  obtain ⟨gone, hl, -, -⟩ := ledger_after s n as
  obtain ⟨⟨q, hd, hm, -⟩, -⟩ := step_cases _ a (ready_after (p := launched s n) rfl as)
  obtain ⟨out, hl, -, -⟩ := hl.does hd
  have hs := changes_invariant (fun _ _ => Sound.change) hd.changes (sound_after s n as)
  have hq := does as a q hd h
  rw [← made_concat] at hl
  rw [history_concat]
  generalize (step _ a).2 = r at hm ⊢
  have key : Ledger (made (launched s n) (as ++ [a])) (gone ++ out) (history (launched s n) as) r ∧
      r.Sound ∧ motive (as ++ [a]) (history (launched s n) as ++ r.effects) r := by
    induction hm with
    | refl => exact ⟨hl, hs, hq⟩
    | tail _ hm ih =>
      obtain ⟨hl, hs, hq⟩ := ih
      exact ⟨hl.move hm, hs.move hm, move hl hs hm hq⟩
  exact key.2.2

/-- If no call is made twice in a run, what is seen of each call agrees. -/
theorem served_after (s : PoolSettings) (n : Nat) (as : List Action)
    (h : (made (launched s n) as).Nodup) : Served (history (launched s n) as) := by
  refine seen_induction s n (motive := fun as E _ => (made (launched s n) as).Nodup → Served E)
    (fun _ => ⟨by simp, by simp, by simp⟩) (fun as a q hd ih hmade => ?_)
    (fun hl _ hm ih hmade => (ih hmade).move hmade hl hm) as h
  rw [made_concat] at hmade
  exact (ih (List.nodup_append.1 hmade).1).does hd

end FunctionHost.Pool
