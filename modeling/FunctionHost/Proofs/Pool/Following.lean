import FunctionHost.Proofs.Pool.Session
/-!
# Settling follows the session

While a pool settles, each turn leads from one agreement of a session with its worker to the next
(`leads_turn`). What happens elsewhere does not matter (`leads_elsewhere`), because a call whose
reply is read is held by the pool, and a call that is held has not ended. A call that gets the
worker opens a read of the lines that were left (`leads_seize`).

Main statements: `leads_settle`, `leads_expire`, and `leads_output`, what follows when the worker
has printed or has died.
-/

namespace FunctionHost.Pool

open Relation

/-- What is known of a pool from one move to the next. -/
structure Kept (limit : Nat) (made gone : List Call) (es : List Effect) (p : Pool) : Prop where
  /-- The ledger is right. -/
  ledger : Ledger made gone es p
  /-- No call was made twice. -/
  distinct : made.Nodup
  /-- Every worker is sound. -/
  sound : p.Sound
  /-- The worker timeout. -/
  timeout : p.settings.workerTimeout = limit

section

variable {made gone : List Call} {es fs : List Effect} {p q : Pool} {i k limit now : Nat}
  {s : Session} {w v : Worker} {c : Call}

theorem Kept.moves (h : Kept limit made gone es p) (hm : Moves p q) :
    Kept limit made gone es q := by
  obtain ⟨-, hsettings⟩ := Moves.scene hm
  refine ⟨h.ledger.moves hm, h.distinct, h.sound.moves hm, ?_⟩
  rw [hsettings]
  exact h.timeout

theorem Kept.stirs (h : Kept limit made gone es p) (hm : Stirs p q) : Kept limit made gone es q :=
  h.moves (moves_of_stirs hm)

/-- A call that is in progress on a worker has not ended. -/
theorem Kept.not_ended (h : Kept limit made gone es p) (hw : p.workers[i]? = some w)
    {inv : Invocation} (hinv : w.running? = some inv) (o : Outcome) :
    .ended inv.call o ∉ p.effects := by
  intro ho
  have hcalls : inv.call ∈ p.calls := by
    refine List.mem_append_left _ (mem_callsOn_iff.2 ⟨i, w, hw, List.mem_append_left _ ?_⟩)
    rw [running?_eq_some_iff.1 hinv]
    exact List.mem_singleton_self _
  have hno := (h.ledger.held h.distinct hcalls).1
  exact hno (mem_endings_iff.2 ⟨o, List.mem_append_right _ ho⟩)

/-- A call whose reply is read is in progress. -/
theorem Fits.running (h : Fits limit now s w) {t : Nat} (hr : s.reading = some (c, t)) :
    ∃ inv, w.running? = some inv ∧ inv.call = c ∧ inv.started = t := by
  cases hrun : w.running? with
  | none =>
    rw [(h.idle hrun).1] at hr
    cases hr
  | some inv =>
    obtain ⟨-, -, hreads⟩ := h.busy inv hrun
    rw [hreads.reading] at hr
    cases hr
    exact ⟨inv, rfl, rfl, rfl⟩

/-- What is seen elsewhere leaves a session as it is whose call is in progress. -/
theorem Kept.ignored (h : Kept limit made gone es q) (hv : q.workers[i]? = some v)
    (hr : ∀ c t, s.reading = some (c, t) → ∃ inv, v.running? = some inv ∧ inv.call = c)
    (hsub : ∀ e ∈ fs, e ∈ q.effects) (hfs : ∀ e ∈ fs, e.worker? ≠ some i) :
    ∀ e ∈ fs, s.next i limit (.saw now e) = s ∧ s.Allows i limit (.saw now e) := by
  intro e he
  refine Session.next_saw_of_other now (hfs e he) ?_
  rintro c t hreading o rfl
  obtain ⟨inv, hinv, rfl⟩ := hr c t hreading
  exact h.not_ended hv hinv o (hsub _ he)

/-! ### What happens elsewhere -/

/-- What happens elsewhere does not matter. -/
theorem leads_elsewhere (h : Agrees i limit s p) (hk : Kept limit made gone es q)
    (hclock : q.clock = p.clock)
    (hshown : (q.workers[i]?).map Worker.shown = (p.workers[i]?).map Worker.shown)
    (he : q.effects = p.effects ++ fs) (hfs : ∀ e ∈ fs, e.worker? ≠ some i) :
    Leads i limit s p q := by
  obtain ⟨w, hw, hfits⟩ := h
  rw [hw, Option.map_some, Option.map_eq_some_iff] at hshown
  obtain ⟨v, hv, hsame⟩ := hshown
  have hfits := hfits.of_shown hsame
  have hignored : ∀ e ∈ fs,
      s.next i limit (.saw p.clock e) = s ∧ s.Allows i limit (.saw p.clock e) := by
    refine hk.ignored hv (fun c t hr => ?_) (fun e hm => ?_) hfs
    · obtain ⟨inv, hinv, hcall, -⟩ := hfits.running hr
      exact ⟨inv, hinv, hcall⟩
    · rw [he]
      exact List.mem_append_right _ hm
  refine Leads.after_ignored (leads_refl ⟨v, hv, ?_⟩) hclock he hignored
  rw [hclock]
  exact hfits

/-- What leaves worker `i` alone does not matter. -/
theorem leads_of_spares (h : Agrees i limit s p) (hk : Kept limit made gone es q)
    (hclock : q.clock = p.clock) (hs : Spares i p q) : Leads i limit s p q := by
  obtain ⟨fs, he, hfs⟩ := hs.seen
  exact leads_elsewhere h hk hclock (congrArg _ hs.worker) he hfs

/-- A worker changes and shows the same. -/
theorem leads_set (h : Agrees i limit s p) (hk : Kept limit made gone es q)
    (hclock : q.clock = p.clock) (hw : p.workers[k]? = some w)
    (hws : q.workers = p.workers.set k v) (hv : v.shown = w.shown)
    (he : q.effects = p.effects ++ fs) (hfs : ∀ e ∈ fs, e.worker? ≠ some i) :
    Leads i limit s p q := by
  refine leads_elsewhere h hk hclock ?_ he hfs
  rw [hws]
  by_cases hki : k = i
  · subst hki
    rw [List.getElem?_set_self (List.getElem?_eq_some_iff.1 hw).1, hw, Option.map_some,
      Option.map_some, hv]
  · rw [List.getElem?_set_ne hki]

/-! ### A call gets the worker -/

theorem Comes.running? (hc : Comes p i c q) (hw : q.workers[i]? = some w) : w.running? = none := by
  have hcall := hc.call? hw
  rwa [Worker.call?, Option.map_eq_none_iff] at hcall

/-- An invocation that begins reads the lines that were left. -/
theorem reads_opening (hpast : ∀ l ∈ s.lines, l.1 ≤ now) (c : Call) :
    Reads limit now { s with caller := some c, reading := some (c, now) } (opening c now) []
      s.lines := by
  refine ⟨rfl, rfl, rfl, ?_, ⟨Nat.le_refl _, Nat.le_add_right _ _⟩, ?_, hpast, ?_⟩
  · intro l hl
    cases hl
  · intro l hl
    exact .inl (hpast l hl)
  · intro l _
    exact Nat.le_max_left _ _

/-- A call comes for worker `i`, writes its statements, and reads what was left. -/
theorem leads_seize (h : Agrees i limit s p) (hk : Kept limit made gone es p) (hc : Comes p i c q)
    (hw : q.workers[i]? = some w) (hr : w.reading = true) :
    Leads i limit s p ((q.seize i w c).proceed i) := by
  have hclock : q.clock = p.clock := clock_of_scene hc.scene
  have hget : (q.seize i w c).workers[i]? = some (w.seizedBy c q.clock) := by
    rw [workers_seize, List.getElem?_set_self (List.getElem?_eq_some_iff.1 hw).1]
  have halive : w.alive = true := by
    by_contra hdead
    have hsound := hk.sound.at (hc.workers ▸ hw)
    rw [hsound.reading (Bool.eq_false_iff.2 hdead)] at hr
    cases hr
  have hfits := h.fits (hc.workers ▸ hw)
  obtain ⟨hreading, hunread⟩ := hfits.idle (hc.running? hw)
  -- the session after the call has got the worker and its statements are written
  have hopened : s.run i limit ([Effect.obtained i c, .wrote i (textFor w c)].map (.saw p.clock)) =
      { s with caller := some c, reading := some (c, p.clock) } := by
    simp [Session.run, Session.next]
  have hreads : Reads limit p.clock { s with caller := some c, reading := some (c, p.clock) }
      (opening c p.clock) [] s.lines := reads_opening hfits.past c
  rw [← hclock] at hreads hopened
  have hleads := leads_proceed hget rfl hunread hreads
    ((congrArg PoolSettings.workerTimeout (settings_of_scene hc.scene)).trans hk.timeout)
    hfits.waiting hfits.opened fun hdead => absurd (halive.symm.trans hdead) (by simp)
  refine hleads.after hclock (hc.effects_seize w) ⟨trivial, fun _ => ?_, trivial⟩ ?_
  · simp [Session.next, hreading]
  · rw [← hclock]
    exact hopened

/-- A call comes for worker `i`, which does not read, and fails. -/
theorem leads_fail (h : Agrees i limit s p) (hc : Comes p i c q) (hw : q.workers[i]? = some w)
    (o : Outcome) : Leads i limit s p ((q.note (.obtained i c)).finish i c o) := by
  have hclock : ((q.note (.obtained i c)).finish i c o).clock = p.clock := by
    rw [clock_of_scene (scene_finish _ i c o)]
    exact clock_of_scene hc.scene
  have hfits := h.fits (hc.workers ▸ hw)
  obtain ⟨hreading, hunread⟩ := hfits.idle (hc.running? hw)
  have hafter : s.run i limit ([Effect.obtained i c, .ended c o].map (.saw p.clock)) =
      { s with caller := some c } := by
    simp [Session.run, Session.next, hreading]
  refine ⟨hclock, _, hc.effects_fail hw o, ⟨trivial, fun t ht => ?_, trivial⟩, ?_⟩
  · simp [Session.next, hreading] at ht
  · rw [hafter]
    refine ⟨w.passedOn, ?_, ?_⟩
    · rw [hc.workers_fail hw, ← hc.workers]
      exact List.getElem?_set_self (List.getElem?_eq_some_iff.1 hw).1
    · rw [hclock]
      exact .passedOn hreading hfits.waiting hfits.past hfits.opened hunread

/-- A call has its turn. -/
theorem leads_start (h : Agrees i limit s p) (hk : Kept limit made gone es p)
    (hc : Comes p k c q) : Leads i limit s p (q.start k c) := by
  by_cases hki : k = i
  · subst hki
    obtain ⟨w, hw⟩ := hc.getElem?
    unfold start
    simp only [hw]
    split
    next hr => exact leads_seize h hk hc hw hr
    next => exact leads_fail h hc hw _
  · have hspares : Spares i p q := .same hc.workers (hc.effects.trans (List.append_nil _).symm)
      (by simp)
    have hclock : (q.start k c).clock = p.clock := by
      rw [clock_of_scene (scene_start q k c), clock_of_scene hc.scene]
    exact leads_of_spares h (hk.stirs (start_stirs hc)) hclock
      (hspares.trans (spares_start (Ne.symm hki) q c))

theorem leads_turn {t : Turn} {ts : List Turn} (h : Agrees i limit s p)
    (hk : Kept limit made gone es p) (hr : p.ready = t :: ts) :
    Leads i limit s p (({ p with ready := ts } : Pool).turn t) := by
  rcases turn_cases hr with ⟨k, c, hc, heq⟩ | ⟨hws, fs, he, hfs⟩
  · rw [heq]
    exact leads_start h hk hc
  · have hclock : (({ p with ready := ts } : Pool).turn t).clock = p.clock :=
      clock_of_scene (scene_turn _ t)
    refine leads_of_spares h (hk.stirs (turn_stirs hr)) hclock (.same hws he fun e hm hi => ?_)
    rw [hfs e hm] at hi
    cases hi

/-- A pool settles. -/
theorem leads_settle (h : Agrees i limit s p) (hk : Kept limit made gone es p) :
    Leads i limit s p p.settle := by
  induction p using settle.induct generalizing s with
  | case1 p hr =>
    rw [settle_of_nil hr]
    exact leads_refl h
  | case2 p t ts hr ih =>
    rw [settle_of_cons hr]
    refine (leads_turn h hk hr).trans fun s' hs' => ?_
    exact ih hs' (hk.stirs (turn_stirs hr))

/-! ### Time -/

/-- The invocation on a worker ends if its time is up. -/
theorem leads_expireWorker (h : Agrees i limit s p) (hk : Kept limit made gone es p) (k : Nat) :
    Leads i limit s p (p.expireWorker k) := by
  unfold expireWorker
  split
  next inv hinv =>
    obtain ⟨w, hw, hrun⟩ := Option.bind_eq_some_iff.1 hinv
    split
    next ht =>
      have hclock : (p.finish k inv.call timedOut).clock = p.clock :=
        clock_of_scene (scene_finish p k _ _)
      by_cases hki : k = i
      · subst hki
        have hfits := h.fits hw
        obtain ⟨halive, hunread, hreads⟩ := hfits.busy inv hrun
        have hcloses := hfits.opened halive
        have hend := Channel.readReply_of_open (c := s.channel) hcloses hreads.seen hreads.partly
        rw [hk.timeout, deadlineAfter_some] at ht
        rw [← hcloses, Nat.le_antisymm ht hreads.time.2] at hend
        have he : (p.finish k inv.call timedOut).effects =
            p.effects ++ ([] ++ [.ended inv.call timedOut]) := effects_finish hw _ _
        exact leads_done hreads.reading hend hw (workers_finish hw _ _) hclock he (by simp)
          hunread (by simp) hfits.opened hfits.waiting
      · have hexpires := Stir.expires hw (running?_eq_some_iff.1 hrun) ht
        exact leads_of_spares h (hk.stirs (.single hexpires)) hclock
          (spares_finish (Ne.symm hki) p _ _)
    next => exact leads_refl h
  next => exact leads_refl h

theorem leads_foldl_expireWorker (h : Agrees i limit s p) (hk : Kept limit made gone es p)
    (ks : List Nat) : Leads i limit s p (ks.foldl expireWorker p) := by
  induction ks generalizing p s with
  | nil => exact leads_refl h
  | cons k ks ih =>
    refine (leads_expireWorker h hk k).trans fun s' hs' => ?_
    exact ih hs' (hk.stirs (expireWorker_stirs p k))

/-- Whatever time it is, what is overdue ends. -/
theorem leads_expire (h : Agrees i limit s p) (hk : Kept limit made gone es p) :
    Leads i limit s p p.expire := by
  have hfold := hk.stirs (foldl_related expireWorker_stirs (List.range p.workers.length) p)
  have hsettle := hfold.stirs (settle_stirs _)
  refine ((leads_foldl_expireWorker h hk (List.range p.workers.length)).trans fun s' hs' =>
    leads_settle hs' hfold).trans fun s' hs' => ?_
  refine leads_of_spares hs' (hsettle.stirs (.single (.givesUp _))) rfl
    (.same rfl (effects_expireWaiting _ _) fun e he => ?_)
  obtain ⟨d, -, rfl⟩ := List.mem_map.1 he
  simp [Effect.worker?]

/-! ### Output -/

theorem eq_of_mem_printed {ls : List String} : ∀ l ∈ ls.map (now, ·), l.1 = now := by
  intro l hl
  obtain ⟨x, -, rfl⟩ := List.mem_map.1 hl
  rfl

theorem map_printed (ls : List String) : (ls.map (now, ·)).map Prod.snd = ls := by
  rw [List.map_map]
  exact List.map_id ls

/-- Lines that are printed now are not yet to come. -/
theorem past_gets (h : ∀ l ∈ s.lines, l.1 ≤ now) (ls : List String) (b : List UInt8)
    (closes : Option Nat) : ∀ l ∈ (s.gets now ls b closes).lines, l.1 ≤ now := by
  intro l hl
  rcases List.mem_append.1 hl with hl | hl
  · exact h l hl
  · exact Nat.le_of_eq (eq_of_mem_printed l hl)

/-- An invocation that is not overdue has the lines before it that are printed now. -/
theorem Reads.gets {inv : Invocation} (h : Reads limit now s inv s.lines [])
    (hlt : now < inv.started + limit) (ls : List String) (b : List UInt8) (closes : Option Nat) :
    Reads limit now (s.gets now ls b closes) inv s.lines (ls.map (now, ·)) := by
  refine ⟨h.reading, rfl, h.decoder, h.partly, h.time, ?_, past_gets h.past ls b closes, ?_⟩
  · intro l hl
    rcases List.mem_append.1 hl with hl | hl
    · exact h.seen l hl
    · rw [eq_of_mem_printed l hl]
      exact .inr hlt
  · intro l hl
    rw [eq_of_mem_printed l hl]
    exact Nat.le_max_right _ _

/-- Worker `i` has printed the lines `ls`, or has died; then the invocation on it reads. -/
theorem leads_output {ls : List String} {closes : Option Nat} (hfits : Fits limit q.clock s w)
    (hin : w.InTime q.clock limit) (hk : Kept limit made gone es q)
    (hclock : q.clock = p.clock) (he : q.effects = p.effects ++ fs)
    (hfs : ∀ e ∈ fs, e.worker? ≠ some i) (hv : q.workers[i]? = some v) (hhold : v.hold = w.hold)
    (hunread : v.unread = w.unread ++ ls) (hopen : v.alive = true → closes = none)
    (hdead : v.alive = false → closes = some q.clock) :
    Leads i limit (s.gets q.clock ls v.outWaiting closes) p (q.proceed i) := by
  have hrunning : v.running? = w.running? := by
    unfold Worker.running?
    rw [hhold]
  have hcalls : ∀ c t, (s.gets q.clock ls v.outWaiting closes).reading = some (c, t) →
      ∃ inv, v.running? = some inv ∧ inv.call = c := by
    intro c t hr
    obtain ⟨inv, hinv, hcall, -⟩ := hfits.running (c := c) (t := t) hr
    exact ⟨inv, hrunning.trans hinv, hcall⟩
  have hsub : ∀ e ∈ fs, e ∈ q.effects := by
    intro e hm
    rw [he]
    exact List.mem_append_right _ hm
  refine Leads.after_ignored ?_ hclock he (hk.ignored hv hcalls hsub hfs)
  cases hinv : w.running? with
  | none =>
    obtain ⟨hreading, hlines⟩ := hfits.idle hinv
    rw [proceed_of_not_running hv (running?_eq_none_iff.1 (hrunning.trans hinv))]
    refine leads_refl ⟨v, hv, rfl, past_gets hfits.past ls _ closes, hopen, fun _ => ⟨hreading, ?_⟩,
      fun inv hsome => ?_⟩
    · rw [hunread, hlines, Session.gets, List.map_append, map_printed]
    · rw [hrunning, hinv] at hsome
      cases hsome
  | some inv =>
    have hhas := running?_eq_some_iff.1 hinv
    obtain ⟨-, hnone, hreads⟩ := hfits.busy inv hinv
    have hnew : v.unread = (ls.map (q.clock, ·)).map Prod.snd := by
      rw [hunread, hnone, List.nil_append, map_printed]
    exact leads_proceed hv (hhold.trans hhas) hnew (hreads.gets (hin inv hhas) ls _ closes)
      hk.timeout rfl hopen fun ha => ⟨hdead ha, hin inv hhas⟩

end

end FunctionHost.Pool
