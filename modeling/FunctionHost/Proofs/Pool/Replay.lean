import FunctionHost.Proofs.Pool.Bounded
import FunctionHost.Proofs.Pool.Following
import FunctionHost.Proofs.Pool.Retirement
/-!
# A run replayed

The record of a worker in a run has what its interpreter prints, when its output ends, when the call
in progress on it is dropped, and all that is seen of the pool, each with its time (`record`). It is
read off the actions and what is seen in them, millisecond by millisecond.

Each action leads from one agreement of the session with the worker to the next (`records_step`). On
another worker an action leaves this one alone, so what is left are the actions on this one, the
calls that come in, the time that passes, and the teardown.

Main statement: `reads_as_readReply`, the record of every run follows the session: each invocation
ends when and as a read of the channel does that started when the call was written, and leaves the
lines that the read leaves.
-/

namespace FunctionHost.Pool

open Relation

/-- What happens at the output of worker `i` if its process is alive. -/
def whileAlive (i : Nat) (p : Pool) (e : Record) : List Record :=
  if p.lives[i]? = some true then [e] else []

/-- What happens at the output of worker `i` in an action, and whether its call is dropped. -/
def outputBy (i : Nat) (p : Pool) : Action → List Record
  | .stdout j data => if j = i then whileAlive i p (.printed p.clock data) else []
  | .exit j => if j = i then whileAlive i p (.closed p.clock) else []
  | .terminate j => if j = i then whileAlive i p (.closed p.clock) else []
  | .teardown => whileAlive i p (.closed p.clock)
  | .cancel name => if p.workers.findIdx? (runs name) = some i then [.dropped p.clock] else []
  | _ => []

/-- What has been seen in an action, with the time. -/
def sights (p : Pool) : List Record := p.effects.map (.saw p.clock)

/-- The record of worker `i` in an action. -/
def recordBy (i : Nat) (p : Pool) (a : Action) : List Record :=
  outputBy i p a ++ sights (p.step a).2

/-- The record of worker `i` in a run. -/
def record (i : Nat) (p : Pool) (as : List Action) : List Record :=
  along (recordBy i) p (moments as)

/-- The record of an action follows the session of worker `i`, which then agrees with the worker. -/
def Records (i limit : Nat) (s : Session) (p : Pool) (a : Action) : Prop :=
  s.Follows i limit (recordBy i p a) ∧
    Agrees i limit (s.run i limit (recordBy i p a)) (p.step a).2

section

variable {made gone : List Call} {es fs : List Effect} {p q : Pool} {i k limit now : Nat}
  {s : Session} {w v : Worker} {c : Call} {a : Action}

theorem records_of_leads (hout : s.Follows i limit (outputBy i p a)) (he : q.effects = [])
    (h : Leads i limit (s.run i limit (outputBy i p a)) q (p.step a).2) :
    Records i limit s p a := by
  obtain ⟨hclock, fs, hfs, hfollows, hagrees⟩ := h
  have hsights : sights (p.step a).2 = fs.map (.saw q.clock) := by
    rw [sights, hclock, hfs, he, List.nil_append]
  refine ⟨?_, ?_⟩
  · rw [recordBy, hsights, Session.follows_append]
    exact ⟨hout, hfollows⟩
  · rw [recordBy, hsights, Session.run_append]
    exact hagrees

/-- An action in which nothing happens at the output, and no call is dropped. -/
theorem records_quiet (hout : outputBy i p a = []) (h : Leads i limit s p.unseen (p.step a).2) :
    Records i limit s p a := by
  refine records_of_leads (q := p.unseen) ?_ rfl (by rwa [hout])
  rw [hout]
  trivial

/-! ### What is known goes on -/

theorem Kept.account {new out : List Call} (h : Kept limit made gone es p)
    (ha : Accounts p new out fs q) (hn : (made ++ new).Nodup) (hs : q.Sound)
    (hscene : q.scene = p.scene) : Kept limit (made ++ new) (gone ++ out) es q := by
  refine ⟨h.ledger.enter ha, hn, hs, ?_⟩
  rw [settings_of_scene hscene]
  exact h.timeout

theorem Kept.drops {name : String} (h : Kept limit made gone es p) (hd : Drops p name q)
    (hscene : q.scene = p.scene) : ∃ out, Kept limit made (gone ++ out) es q := by
  obtain ⟨out, fs, ha, -, -⟩ := hd.accounts
  have hkept := h.account ha (by rw [List.append_nil]; exact h.distinct)
    (h.sound.change (.drops hd)) hscene
  rw [List.append_nil] at hkept
  exact ⟨out, hkept⟩

theorem Kept.prints {data : List UInt8} (h : Kept limit made gone es p) (hp : Prints p k data q)
    (hscene : q.scene = p.scene) : Kept limit made gone es q := by
  have hkept := h.account hp.accounts (by rw [List.append_nil]; exact h.distinct)
    (h.sound.change (.prints hp)) hscene
  rwa [List.append_nil, List.append_nil] at hkept

theorem Kept.step (h : Kept limit made gone es p.unseen) (hr : p.ready = [])
    (hn : (made ++ madeBy p a).Nodup) :
    ∃ out, Kept limit (made ++ madeBy p a) (gone ++ out) es (p.step a).2 := by
  obtain ⟨⟨q, hd, hm, -⟩, -⟩ := step_cases p a hr
  obtain ⟨out, hl, -, -⟩ := h.ledger.does hd
  have hkept : Kept limit (made ++ madeBy p a) (gone ++ out) es q := by
    refine ⟨hl, hn, hd.sound (p := p) h.sound, ?_⟩
    rw [settings_of_scene hd.scene]
    exact h.timeout
  exact ⟨out, hkept.moves hm⟩

/-! ### Calls come in and are dropped -/

/-- A call comes in. -/
theorem leads_enters (h : Agrees i limit s p) (hk : Kept limit made gone es p)
    (hn : (made ++ [c]).Nodup) (he : Enters p c q) : Leads i limit s p q.settle := by
  have hscene : q.scene = p.scene := by cases he <;> rfl
  obtain ⟨fs, ha⟩ := he.accounts
  have hkept := hk.account ha hn (hk.sound.change (.enters he)) hscene
  refine Leads.trans ?_ fun s' hs' => leads_settle hs' hkept
  cases he with
  | looks => exact leads_elsewhere h hkept rfl rfl (List.append_nil _).symm (by simp)
  | @granted j w hw hf =>
    have hshown : ({ w with hold := .granted c } : Worker).shown = w.shown := by
      simp [Worker.shown, Worker.running?, (isFree_iff.1 hf).2]
    exact leads_set h hkept rfl hw rfl hshown (List.append_nil _).symm (by simp)
  | queued hw ht hf => exact leads_set h hkept rfl hw rfl rfl (List.append_nil _).symm (by simp)
  | rejected hw ho => exact leads_elsewhere h hkept rfl rfl rfl (by simp [Effect.worker?])

/-- The call in progress on worker `i` is dropped while its reply is still read. -/
theorem leads_dropped {inv : Invocation} (h : Agrees i limit s p)
    (hk : Kept limit made gone es p) (hin : InTimeAt i p) (hw : p.workers[i]? = some w)
    (hinv : w.hold = .running inv) :
    s.Allows i limit (.dropped p.clock) ∧ Leads i limit (s.done limit) p (p.release i) := by
  have hfits := h.fits hw
  obtain ⟨halive, hunread, hreads⟩ := hfits.busy inv (running?_eq_some_iff.2 hinv)
  have hlt := hin w hw inv hinv
  have hend := Channel.readReply_of_open (c := s.channel) (hfits.opened halive) hreads.seen
    hreads.partly
  have htime : (s.result limit inv.call inv.started).time = inv.started + limit :=
    congrArg (·.2.1) hend
  have hchannel : (s.result limit inv.call inv.started).channel = ⟨[], none⟩ :=
    congrArg (·.2.2) hend
  refine ⟨⟨inv.call, inv.started, hreads.reading, ?_⟩, ?_⟩
  · rw [htime, ← hk.timeout]
    exact hlt
  · have hclock : (p.release i).clock = p.clock := clock_of_scene (scene_release p i)
    refine ⟨hclock, [], by rw [effects_release hw, List.append_nil], trivial, w.passedOn, ?_, ?_⟩
    · rw [workers_release hw]
      exact List.getElem?_set_self (List.getElem?_eq_some_iff.1 hw).1
    · rw [hclock, List.map_nil]
      have hdone : s.done limit = { s with lines := [], reading := none } := by
        simp [Session.done, hreads.reading, hchannel]
      rw [show (s.done limit).run i limit [] = s.done limit from rfl, hdone]
      exact .passedOn rfl hfits.waiting (by simp) hfits.opened hunread

/-- A call is dropped that is not in progress. -/
theorem leads_withdrawn {name : String} (h : Agrees i limit s p) (hk : Kept limit made gone es p)
    (hrun : p.workers.findIdx? (runs name) = none) : Leads i limit s p (p.cancel name).2 := by
  unfold cancel
  rw [hrun]
  dsimp only
  split
  next k hqueue =>
    obtain ⟨hlt, hqueues, -⟩ := List.findIdx?_eq_some_iff_getElem.1 hqueue
    have hw := List.getElem?_eq_getElem hlt
    obtain ⟨out, hkept⟩ := hk.drops (.queued hw hqueues) rfl
    rw [modify_eq_set_of_getElem? hw]
    exact leads_set h hkept rfl hw rfl rfl (List.append_nil _).symm (by simp)
  next =>
    split
    next hwait =>
      obtain ⟨out, hkept⟩ := hk.drops (.waiting hwait) rfl
      exact leads_elsewhere h hkept rfl rfl (List.append_nil _).symm (by simp)
    next => exact leads_refl h

/-- A call is dropped. -/
theorem records_cancel (h : Agrees i limit s p.unseen) (hk : Kept limit made gone es p.unseen)
    (hin : p.unseen.InTime) (name : String) : Records i limit s p (.cancel name) := by
  cases hrun : p.workers.findIdx? (runs name) with
  | none =>
    refine records_quiet ?_ (leads_withdrawn h hk hrun)
    rw [outputBy, hrun, if_neg nofun]
  | some k =>
    obtain ⟨hlt, hruns, -⟩ := List.findIdx?_eq_some_iff_getElem.1 hrun
    obtain ⟨inv, hinv, hname⟩ := runs_eq_true_iff.1 hruns
    have hw : p.unseen.workers[k]? = some p.workers[k] := List.getElem?_eq_getElem hlt
    obtain ⟨out, hkept⟩ := hk.drops (.running hw hinv hname) (scene_release _ k)
    have hrun' : p.unseen.workers.findIdx? (runs name) = some k := hrun
    have hstep : (p.step (.cancel name)).2 = (p.unseen.release k).settle := by
      show (p.unseen.cancel name).2 = _
      unfold cancel
      rw [hrun']
    by_cases hki : k = i
    · subst hki
      obtain ⟨hallows, hleads⟩ := leads_dropped h hk (hin k) hw hinv
      have hout : outputBy k p (.cancel name) = [.dropped p.clock] := by
        rw [outputBy, hrun, if_pos rfl]
      refine records_of_leads (q := p.unseen) ?_ rfl ?_
      · rw [hout]
        exact ⟨hallows, trivial⟩
      · rw [hout, hstep]
        exact hleads.trans fun s' hs' => leads_settle hs' hkept
    · refine records_quiet ?_ ?_
      · rw [outputBy, hrun, if_neg fun heq => hki (Option.some.inj heq)]
      · rw [hstep]
        refine Leads.trans ?_ fun s' hs' => leads_settle hs' hkept
        exact leads_of_spares h hkept (clock_of_scene (scene_release _ k))
          (spares_release (Ne.symm hki) _)

/-! ### Interpreters print and die -/

theorem InTime.of_kept (h : p.InTime) (hk : Kept limit made gone es p)
    (hw : p.workers[i]? = some w) : w.InTime p.clock limit := by
  rw [← hk.timeout]
  exact h i w hw

theorem whileAlive_eq (hw : p.workers[i]? = some w) (e : Record) :
    whileAlive i p e = if w.alive = true then [e] else [] := by
  rw [whileAlive, lives, List.getElem?_map, hw, Option.map_some]
  exact if_congr Option.some_inj rfl rfl

/-- An action in which something happens at the output of worker `i`, if its process is alive. -/
theorem records_of_output {e : Record} (hout : outputBy i p a = whileAlive i p e)
    (he : s.Allows i limit e)
    (h : Leads i limit (s.run i limit (whileAlive i p e)) p.unseen (p.step a).2) :
    Records i limit s p a := by
  refine records_of_leads (q := p.unseen) ?_ rfl (by rwa [hout])
  rw [hout, whileAlive]
  split
  · exact ⟨he, trivial⟩
  · trivial

/-- The interpreter of worker `i` prints. -/
theorem leads_stdout (h : Agrees i limit s p) (hk : Kept limit made gone es p) (hin : p.InTime)
    (data : List UInt8) :
    Leads i limit (s.run i limit (whileAlive i p (.printed p.clock data))) p
      (p.stdout i data).2 := by
  obtain ⟨w, hw, hfits⟩ := id h
  rw [whileAlive_eq hw]
  unfold stdout
  simp only [hw]
  split
  next ha =>
    set v : Worker := { w with
      outWaiting := (Output.feed w.outWaiting data).2
      unread := w.unread ++ (Output.feed w.outWaiting data).1 }
    have hkept : Kept limit made gone es (p.setWorker i v) := hk.prints (.feeds hw ha) rfl
    have hleads : Leads i limit (s.gets p.clock (Output.feed w.outWaiting data).1
        (Output.feed w.outWaiting data).2 s.closes) p ((p.setWorker i v).proceed i) :=
      leads_output (q := p.setWorker i v) hfits (hin.of_kept hk hw) hkept rfl
        (List.append_nil _).symm (by simp) (getElem?_setWorker hw v) rfl rfl hfits.opened
        fun hdead => absurd (ha.symm.trans hdead) (by simp)
    rw [hfits.waiting] at hleads
    exact hleads.trans fun s' hs' => leads_settle hs' (hkept.stirs (proceed_stirs _ i))
  next => exact leads_refl h

/-- The interpreter of worker `i` dies, and the invocation on it reads the last lines. -/
theorem leads_died (hfits : Fits limit p.clock s w) (hin : w.InTime p.clock limit)
    (hk : Kept limit made gone es q) (hclock : q.clock = p.clock)
    (he : q.effects = p.effects ++ fs) (hfs : ∀ e ∈ fs, e.worker? ≠ some i)
    (hv : q.workers[i]? = some { w with
      alive := false
      reading := false
      terminated := true
      outWaiting := []
      errWaiting := []
      unread := w.unread ++ Output.last w.outWaiting }) :
    Leads i limit (s.next i limit (.closed p.clock)) p (q.proceed i).settle := by
  rw [← hclock] at hfits hin
  have hleads : Leads i limit (s.gets q.clock (Output.last w.outWaiting) [] (some q.clock)) p
      (q.proceed i) :=
    leads_output hfits hin hk hclock he hfs hv rfl rfl nofun fun _ => rfl
  rw [hfits.waiting, hclock] at hleads
  exact hleads.trans fun s' hs' => leads_settle hs' (hk.stirs (proceed_stirs _ i))

theorem worker?_of_said_ne : ∀ {ls : List String}, ∀ e ∈ said k ls, e.worker? ≠ some i := by
  intro ls e he
  rw [worker?_of_said e he]
  simp

/-- The interpreter of worker `i` dies by itself. -/
theorem leads_exit (h : Agrees i limit s p) (hk : Kept limit made gone es p) (hin : p.InTime) :
    Leads i limit (s.run i limit (whileAlive i p (.closed p.clock))) p (p.exit i).2 := by
  obtain ⟨w, hw, hfits⟩ := id h
  rw [whileAlive_eq hw]
  unfold exit
  simp only [hw]
  split
  next ha =>
    have htime := hin.of_kept hk hw
    have hdie := hk.moves (.single (.dies hw ha))
    have hreport : Kept limit made gone es ((p.die i w).note (.exitedUnexpectedly i)) :=
      hdie.moves (.single .reports)
    dsimp only
    split
    · exact leads_died hfits htime hdie rfl rfl worker?_of_said_ne (getElem?_setWorker hw _)
    · have hsaid : ∀ e ∈ said i (Output.last w.errWaiting) ++ [.exitedUnexpectedly i],
          e.worker? ≠ some i := by
        rw [List.forall_mem_append, List.forall_mem_singleton]
        exact ⟨worker?_of_said_ne, by simp [Effect.worker?]⟩
      exact leads_died hfits htime hreport rfl (List.append_assoc _ _ _) hsaid
        (getElem?_setWorker hw _)
  next => exact leads_refl h

/-- Worker `i` is terminated, after what has left it alone. -/
theorem leads_stop (h : Agrees i limit s p) (hk : Kept limit made gone es p)
    (hin : p.InTime) (hkq : Kept limit made gone es q) (hclock : q.clock = p.clock)
    (hs : Spares i p q) :
    Leads i limit (s.run i limit (whileAlive i p (.closed p.clock))) p (q.stop i) := by
  obtain ⟨w, hw, hfits⟩ := id h
  obtain ⟨fs, he, hfs⟩ := hs.seen
  have hwq : q.workers[i]? = some w := hs.worker.trans hw
  rw [whileAlive_eq hw]
  unfold stop
  simp only [hwq]
  split
  next ha =>
    have hdie := hkq.moves (.single (.dies hwq ha))
    have heffects : (q.die i w).effects =
        p.effects ++ (fs ++ said i (Output.last w.errWaiting)) := by
      rw [← List.append_assoc, ← he]
      rfl
    refine leads_died hfits (hin.of_kept hk hw) hdie hclock heffects ?_ (getElem?_setWorker hwq _)
    rw [List.forall_mem_append]
    exact ⟨hfs, worker?_of_said_ne⟩
  next ha =>
    have hmarks := hkq.moves (.single (.marks hwq (Bool.eq_false_iff.2 ha)))
    refine (leads_of_spares h hkq hclock hs).trans fun s' hs' => ?_
    exact leads_set hs' hmarks rfl hwq rfl rfl (List.append_nil _).symm (by simp)

/-- Other workers that are terminated leave worker `i` alone. -/
theorem spares_foldl_stop {ks : List Nat} (hh : p.Heard) (hr : p.ready = []) (hks : i ∉ ks) :
    Spares i p (ks.foldl stop p) := by
  induction ks generalizing p with
  | nil => exact .refl i p
  | cons k ks ih =>
    rw [List.mem_cons, not_or] at hks
    obtain ⟨hik, hks⟩ := hks
    have hone : Spares i p (p.stop k) := (confined_refl hh hr k).stop.others i hik
    exact hone.trans (ih (hh.moves (stop_moves p k)) (ready_stop k hr) hks)

/-- All workers are terminated, worker `i` when it is its turn, and every waiting call is woken. -/
theorem leads_stopAll (h : Agrees i limit s p) (hk : Kept limit made gone es p) (hin : p.InTime)
    (hh : p.Heard) (hr : p.ready = []) :
    Leads i limit (s.run i limit (whileAlive i p (.closed p.clock))) p p.stopAll := by
  obtain ⟨w, hw, -⟩ := id h
  have hi : i ∈ List.range p.workers.length :=
    List.mem_range.2 (List.getElem?_eq_some_iff.1 hw).1
  obtain ⟨before, later, hrange⟩ := List.append_of_mem hi
  have hnodup := List.nodup_range (n := p.workers.length)
  rw [hrange, List.nodup_middle, List.nodup_cons, List.mem_append, not_or] at hnodup
  obtain ⟨⟨hbefore, hlater⟩, -⟩ := hnodup
  have hmoves : ∀ (ks : List Nat) (r : Pool), Moves r (ks.foldl stop r) :=
    foldl_related stop_moves
  have hclock : ∀ (ks : List Nat) (r : Pool), (ks.foldl stop r).clock = r.clock := by
    intro ks r
    exact clock_of_scene (scene_foldl r (fun p k => scene_stop p k) ks)
  set p₁ := before.foldl stop p
  set p₂ := p₁.stop i
  set p₃ := later.foldl stop p₂
  have hall : p.stopAll = p₃.roused.settle := by
    unfold stopAll
    rw [hrange, List.foldl_append, List.foldl_cons]
  have hk₁ := hk.moves (hmoves before p)
  have hk₂ := hk₁.moves (stop_moves p₁ i)
  have hk₃ := hk₂.moves (hmoves later p₂)
  have hh₂ : p₂.Heard := (hh.moves (hmoves before p)).moves (stop_moves p₁ i)
  have hr₂ : p₂.ready = [] := ready_stop i (ready_foldl_stop before hr)
  rw [hall]
  refine (leads_stop h hk hin hk₁ (hclock before p)
    (spares_foldl_stop hh hr hbefore)).trans fun s' hs' => ?_
  refine (leads_of_spares hs' hk₃ (hclock later p₂)
    (spares_foldl_stop hh₂ hr₂ hlater)).trans fun s' hs' => ?_
  have hk₄ := hk₃.moves (.single .wakesAll)
  refine (leads_elsewhere hs' hk₄ rfl rfl (List.append_nil _).symm (by simp)).trans fun s' hs' => ?_
  exact leads_settle hs' hk₄

/-- An interpreter prints on its error output. -/
theorem leads_stderr {data : List UInt8} (h : Agrees i limit s p)
    (hk : Kept limit made gone es (p.stderr k data).2) : Leads i limit s p (p.stderr k data).2 := by
  unfold stderr at *
  split
  next => exact leads_refl h
  next w hw =>
    simp only [hw] at hk
    split
    next ha =>
      rw [if_pos ha] at hk
      exact leads_set h hk rfl hw rfl rfl rfl worker?_of_said_ne
    next => exact leads_refl h

/-- An interpreter reads no more. -/
theorem leads_closeStdin (h : Agrees i limit s p) (hk : Kept limit made gone es (p.closeStdin k)) :
    Leads i limit s p (p.closeStdin k) := by
  cases hw : p.workers[k]? with
  | none =>
    have heq : p.closeStdin k = p := by
      unfold closeStdin
      rw [List.modify_eq_self (List.getElem?_eq_none_iff.1 hw)]
    rw [heq]
    exact leads_refl h
  | some w =>
    exact leads_set h hk rfl hw (modify_eq_set_of_getElem? hw _) rfl (List.append_nil _).symm
      (by simp)

/-! ### Time passes -/

/-- A session agrees with a worker a millisecond later if nobody is overdue. -/
theorem Fits.tick (h : Fits limit now s w) (hin : w.InTime now limit) :
    Fits limit (now + 1) s w := by
  have hpast : ∀ l ∈ s.lines, l.1 ≤ now + 1 := fun l hl => Nat.le_succ_of_le (h.past l hl)
  refine ⟨h.waiting, hpast, h.opened, h.idle, fun inv hinv => ?_⟩
  obtain ⟨halive, hunread, hreads⟩ := h.busy inv hinv
  have hlt := hin inv (running?_eq_some_iff.1 hinv)
  refine ⟨halive, hunread, hreads.reading, hreads.lines, hreads.decoder, hreads.partly, ?_,
    hreads.seen, hpast, by simp⟩
  exact ⟨Nat.le_succ_of_le hreads.time.1, hlt⟩

/-- A millisecond passes. -/
theorem leads_advance (h : Agrees i limit s p) (hk : Kept limit made gone es p)
    (hin : p.InTime) :
    Leads i limit s { p with clock := p.clock + 1 } (p.advance 1) := by
  obtain ⟨w, hw, hfits⟩ := h
  have htick : Agrees i limit s { p with clock := p.clock + 1 } :=
    ⟨w, hw, hfits.tick (hin.of_kept hk hw)⟩
  have hkept : Kept limit made gone es { p with clock := p.clock + 1 } :=
    hk.stirs (.single (.ticks fun t _ ht => ht))
  by_cases hquiet : 1 ≤ p.quiet 1
  · rw [advance_of_le_quiet hquiet]
    exact leads_refl htick
  · have hzero : p.quiet 1 = 0 := by omega
    rw [advance_of_quiet_lt (by omega), hzero, advance_of_le_quiet (Nat.zero_le _)]
    exact leads_expire htick hkept

/-! ### Actions -/

/-- An action on another worker. -/
theorem records_of_other (h : Agrees i limit s p) (hk : Kept limit made gone es (p.step a).2)
    (hh : p.Heard) (hr : p.ready = []) (ha : a.worker? p = some k) (hki : k ≠ i)
    (hout : outputBy i p a = []) : Records i limit s p a := by
  have hclock : (p.step a).2.clock = p.unseen.clock := by
    have hzero : a.takes = 0 := by
      cases a with
      | advance n => cases ha
      | _ => rfl
    have hscene := congrArg Prod.fst (scene_step p a)
    rwa [hzero] at hscene
  exact records_quiet hout
    (leads_of_spares h hk hclock ((confined_step hh hr ha).others i (Ne.symm hki)))

/-- Every action leads from one agreement of the session with worker `i` to the next. -/
theorem records_step (h : Agrees i limit s p) (hk : Kept limit made gone es p.unseen)
    (hn : (made ++ madeBy p a).Nodup) (hr : p.ready = []) (hh : p.Heard) (hp : p.Punctual)
    (ha : a.takes ≤ 1) : Records i limit s p a := by
  have h : Agrees i limit s p.unseen := h
  have hh' : p.unseen.Heard := hh
  have hin : p.unseen.InTime := hp.inTime
  obtain ⟨out, hkept⟩ := hk.step hr hn
  have hother : ∀ k, a.worker? p = some k → k ≠ i → outputBy i p a = [] → Records i limit s p a :=
    fun k hak hki hout => records_of_other h hkept hh hr hak hki hout
  have henters : ∀ c q, madeBy p a = [c] → outputBy i p a = [] → Enters p.unseen c q →
      (p.step a).2 = q.settle → Records i limit s p a := by
    intro c q hc hout he heq
    rw [hc] at hn
    refine records_quiet hout ?_
    rw [heq]
    exact leads_enters h hk hn he
  have hnothing : outputBy i p a = [] → (p.step a).2 = p.unseen → Records i limit s p a := by
    intro hout heq
    refine records_quiet hout ?_
    rw [heq]
    exact leads_refl h
  cases a with
  | dispatch c => exact henters c _ rfl rfl .looks rfl
  | handle k c =>
    rcases handle_cases p.unseen k c hr with ⟨hlt, q, he, heq⟩ | ⟨hlt, heq⟩
    · exact henters c q (if_pos hlt) rfl he heq
    · exact hnothing rfl heq
  | tryHandle k c =>
    rcases tryHandle_cases p.unseen k c hr with ⟨hlt, q, he, heq⟩ | ⟨hlt, heq⟩
    · exact henters c q (if_pos hlt) rfl he heq
    · exact hnothing rfl heq
  | cancel name => exact records_cancel h hk hin name
  | stdout k data =>
    by_cases hki : k = i
    · subst hki
      exact records_of_output (if_pos rfl) trivial (leads_stdout h hk hin data)
    · exact hother k rfl hki (if_neg hki)
  | stderr k data => exact records_quiet rfl (leads_stderr h hkept)
  | closeStdin k => exact records_quiet rfl (leads_closeStdin h hkept)
  | exit k =>
    by_cases hki : k = i
    · subst hki
      exact records_of_output (if_pos rfl) trivial (leads_exit h hk hin)
    · exact hother k rfl hki (if_neg hki)
  | advance n =>
    cases n with
    | zero => exact hnothing rfl (advance_of_le_quiet (p := p.unseen) (Nat.zero_le _))
    | succ n =>
      obtain rfl : n = 0 := Nat.le_zero.1 (Nat.le_of_succ_le_succ ha)
      exact records_of_leads (q := { p.unseen with clock := p.clock + 1 }) trivial rfl
        (leads_advance h hk hin)
  | terminate k =>
    by_cases hki : k = i
    · subst hki
      refine records_of_output (if_pos rfl) trivial ?_
      rw [step_terminate]
      exact leads_stop h hk hin hk rfl (.refl k _)
    · exact hother k rfl hki (if_neg hki)
  | teardown =>
    refine records_of_output rfl trivial ?_
    rw [step_teardown]
    exact leads_stopAll h hk hin hh' hr

end

/-! ### Runs -/

section

variable {s : PoolSettings} {n i : Nat}

theorem agrees_launched (hi : i < n) (limit : Nat) : Agrees i limit {} (launched s n) := by
  have hw : (launched s n).workers[i]? = some {} := by
    simp [launched, hi]
  refine ⟨{}, hw, rfl, ?_, fun _ => rfl, fun _ => ⟨rfl, rfl⟩, ?_⟩
  · intro l hl
    cases hl
  · intro inv hinv
    cases hinv

theorem kept_after {as : List Action} (h : (made (launched s n) as).Nodup) :
    ∃ gone, Kept s.workerTimeout (made (launched s n) as) gone (history (launched s n) as)
      ((launched s n).after as).unseen := by
  obtain ⟨gone, hl, -, -⟩ := ledger_after s n as
  refine ⟨gone, hl, h, sound_after s n as, ?_⟩
  exact congrArg PoolSettings.workerTimeout (settings_after s n as)

/-- The record of a run in which no action takes more than a millisecond follows the session, which
then agrees with the worker. -/
theorem records_run (hi : i < n) (as : List Action) (hbrief : ∀ a ∈ as, a.takes ≤ 1)
    (h : (made (launched s n) as).Nodup) :
    ({} : Session).Follows i s.workerTimeout (along (recordBy i) (launched s n) as) ∧
      Agrees i s.workerTimeout
        (({} : Session).run i s.workerTimeout (along (recordBy i) (launched s n) as))
        ((launched s n).after as) := by
  refine after_induction (p := launched s n) (motive := fun as p => (∀ a ∈ as, a.takes ≤ 1) →
    (made (launched s n) as).Nodup →
    ({} : Session).Follows i s.workerTimeout (along (recordBy i) (launched s n) as) ∧
      Agrees i s.workerTimeout
        (({} : Session).run i s.workerTimeout (along (recordBy i) (launched s n) as)) p)
    ?_ ?_ as hbrief h
  · intro _ _
    exact ⟨trivial, agrees_launched hi _⟩
  · intro as a ih hbrief hmade
    rw [List.forall_mem_append, List.forall_mem_singleton] at hbrief
    rw [made_concat] at hmade
    have hbefore := (List.nodup_append.1 hmade).1
    obtain ⟨hfollows, hagrees⟩ := ih hbrief.1 hbefore
    obtain ⟨gone, hkept⟩ := kept_after hbefore
    obtain ⟨hnext, hafter⟩ := records_step hagrees hkept hmade (ready_after rfl as)
      (heard_after s n as) (punctual_after s n as) hbrief.2
    rw [along_concat, Session.follows_append, Session.run_append]
    exact ⟨⟨hfollows, hnext⟩, hafter⟩

end

/-- The session of worker `i` after a run of a new pool. -/
def sessionAfter (i : Nat) (s : PoolSettings) (n : Nat) (as : List Action) : Session :=
  ({} : Session).run i s.workerTimeout (record i (launched s n) as)

/-- In every run in which no call is made twice, each invocation on a worker ends when and as a read
of its reply does that started when it was written, on a channel with the lines left to it and what
was printed since; it leaves the lines that the read leaves. An invocation that is dropped was still
reading, and so is one that is in progress, which has taken all lines. -/
theorem reads_as_readReply (s : PoolSettings) (n : Nat) (as : List Action) (i : Nat) (w : Worker)
    (h : (made (launched s n) as).Nodup) (hw : ((launched s n).after as).workers[i]? = some w) :
    ({} : Session).Follows i s.workerTimeout (record i (launched s n) as) ∧
      ((sessionAfter i s n as).reading = none →
        w.call? = none ∧ w.unread = (sessionAfter i s n as).lines.map Prod.snd) ∧
      ∀ c t, (sessionAfter i s n as).reading = some (c, t) →
        w.call? = some c ∧ w.unread = [] ∧
          ((launched s n).after as).clock <
            ((sessionAfter i s n as).result s.workerTimeout c t).time := by
  have hi : i < n := by
    have hlt := (List.getElem?_eq_some_iff.1 hw).1
    rwa [length_after] at hlt
  have hw' : ((launched s n).after (moments as)).workers[i]? = some w := by
    rwa [workers_moments]
  rw [← made_moments] at h
  obtain ⟨hfollows, hagrees⟩ := records_run hi (moments as) (fun a => (brief_moments as).takes_le) h
  have hfits : Fits s.workerTimeout _ (sessionAfter i s n as) w := hagrees.fits hw'
  refine ⟨hfollows, fun hr => ?_, fun c t hr => ?_⟩
  · cases hrun : w.running? with
    | none =>
      refine ⟨?_, (hfits.idle hrun).2⟩
      rw [Worker.call?, hrun]
      rfl
    | some inv =>
      obtain ⟨-, -, hreads⟩ := hfits.busy inv hrun
      rw [hreads.reading] at hr
      cases hr
  · obtain ⟨inv, hrun, rfl, rfl⟩ := hfits.running hr
    obtain ⟨halive, hunread, hreads⟩ := hfits.busy inv hrun
    have hend := Channel.readReply_of_open (c := (sessionAfter i s n as).channel)
      (hfits.opened halive) hreads.seen hreads.partly
    have htime : ((sessionAfter i s n as).result s.workerTimeout inv.call inv.started).time =
        inv.started + s.workerTimeout := congrArg (·.2.1) hend
    refine ⟨Worker.call?_eq_some_iff.2 ⟨inv, running?_eq_some_iff.1 hrun, rfl⟩, hunread, ?_⟩
    rw [htime]
    have hlt := (punctual_after s n as).inTime i w hw inv (running?_eq_some_iff.1 hrun)
    rwa [settings_after] at hlt

/-- One call runs out of time, one finds its end marker among the lines that were printed before it
began, and one reads the last line of an interpreter that dies. -/
theorem reads_as_readReply_of_three :
    let as := [Action.dispatch (.plain "a"), .advance 100,
      .stdout 0 (Text.Utf8.encode "late\nCMD_OUTPUT_END=b;\nrest".toList),
      .dispatch (.plain "b"), .dispatch (.plain "c"), .exit 0]
    (made (launched .plain 1) as).Nodup ∧
      ({} : Session).Follows 0 100 (record 0 (launched .plain 1) as) ∧
      .saw 100 (.ended (.plain "a") timedOut) ∈ record 0 (launched .plain 1) as ∧
      .saw 100 (.ended (.plain "b") (.reply ⟨.ok, ""⟩)) ∈ record 0 (launched .plain 1) as ∧
      .saw 100 (.ended (.plain "c") (.failed (.closed 0))) ∈ record 0 (launched .plain 1) as := by
  intro as
  have hmade : (made (launched .plain 1) as).Nodup := by decide +kernel
  obtain ⟨w, hw⟩ : ∃ w, ((launched .plain 1).after as).workers[0]? = some w :=
    ⟨_, List.getElem?_eq_getElem (by decide +kernel)⟩
  have hreads := reads_as_readReply .plain 1 as 0 w hmade hw
  exact ⟨hmade, hreads.1, by decide +kernel, by decide +kernel, by decide +kernel⟩

end FunctionHost.Pool
