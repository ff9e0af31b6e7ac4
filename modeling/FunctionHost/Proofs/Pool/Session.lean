import FunctionHost.Proofs.Pool.Apart
import FunctionHost.Proofs.Pool.Punctual
import FunctionHost.Proofs.Reply.Channel
/-!
# The session of a worker

What a worker's interpreter prints and what is seen of the worker's calls make a record, in order
and with times. A session replays it: complete lines are put on a channel, an invocation begins when
its statements are written, and when it ends the channel keeps what a read of it leaves. The record
follows the session (`Session.Follows`) if each invocation ends when and as that read does.

While a pool settles, the session and the worker agree (`Fits`): the lines on the channel are those
that the invocation in progress has taken, or those that nobody has read. What happens meanwhile
leads from one such agreement to the next (`Leads`).

Main statement: `leads_proceed`, what an invocation reads of the worker is what a read takes of the
channel, and it ends when and as that read does.
-/

namespace FunctionHost

/-- What happens at the output of a worker, or is seen of a pool. -/
inductive Record where
  /-- The interpreter prints. -/
  | printed (time : Nat) (data : List UInt8)
  /-- The output ends. -/
  | closed (time : Nat)
  /-- The call in progress is cancelled. -/
  | dropped (time : Nat)
  /-- Something is seen. -/
  | saw (time : Nat) (e : Effect)
deriving DecidableEq, Repr

/-- What a worker's channel holds, and who reads it. -/
structure Session where
  /-- The bytes after the last newline. -/
  waiting : List UInt8 := []
  /-- The lines that were left, and those that were printed since. -/
  lines : List (Nat × String) := []
  /-- When the output ended, if it has. -/
  closes : Option Nat := none
  /-- The call that got the worker last. -/
  caller : Option Call := none
  /-- The call whose reply is read, and when its statements were written. -/
  reading : Option (Call × Nat) := none
deriving DecidableEq, Repr

/-- How the end of a read is reported for a call on worker `i`. -/
def ReadOutcome.outcome (i : Nat) : ReadOutcome → Outcome
  | .reply r => .reply r
  | .timedOut => Pool.timedOut
  | .closed => .failed (.closed i)

namespace Session

/-- The channel of a session. -/
def channel (s : Session) : Channel := ⟨s.lines, s.closes⟩

/-- The read of the reply to a call that was written at time `t`. -/
def result (limit : Nat) (s : Session) (c : Call) (t : Nat) : Reading :=
  s.channel.readReply c.event.requestId (some limit) t

/-- Lines are complete, other bytes wait, and the channel may be closed. -/
def gets (s : Session) (time : Nat) (ls : List String) (waiting : List UInt8)
    (closes : Option Nat) : Session :=
  { s with lines := s.lines ++ ls.map (time, ·), waiting := waiting, closes := closes }

/-- The read that is going on ends, and leaves its lines. -/
def done (limit : Nat) (s : Session) : Session :=
  match s.reading with
  | some (c, t) => { s with lines := (s.result limit c t).channel.lines, reading := none }
  | none => s

/-- The session of worker `i` after something happens. -/
def next (i limit : Nat) (s : Session) : Record → Session
  | .printed u data =>
    s.gets u (Output.feed s.waiting data).1 (Output.feed s.waiting data).2 s.closes
  | .closed u => s.gets u (Output.last s.waiting) [] (some u)
  | .dropped _ => s.done limit
  | .saw _ (.obtained j c) => if j = i then { s with caller := some c } else s
  | .saw u (.wrote j _) => if j = i then { s with reading := s.caller.map (·, u) } else s
  | .saw _ (.ended c _) => if s.reading.map Prod.fst = some c then s.done limit else s
  | .saw _ _ => s

/-- What happens agrees with the session: a call is written when no other reply is read, it ends
when and as its read does, and a call that is dropped was still reading. -/
def Allows (i limit : Nat) (s : Session) : Record → Prop
  | .saw _ (.wrote j _) => j = i → s.reading = none ∧ s.caller.isSome = true
  | .saw u (.completed j c r) => j = i → ∃ t, s.reading = some (c, t) ∧
      (s.result limit c t).outcome = .reply r ∧ (s.result limit c t).time = u
  | .saw u (.ended c o) => ∀ t, s.reading = some (c, t) →
      o = (s.result limit c t).outcome.outcome i ∧ (s.result limit c t).time = u
  | .dropped u => ∃ c t, s.reading = some (c, t) ∧ u < (s.result limit c t).time
  | _ => True

/-- All that happens agrees with the session. -/
def Follows (i limit : Nat) (s : Session) : List Record → Prop
  | [] => True
  | e :: es => s.Allows i limit e ∧ (s.next i limit e).Follows i limit es

/-- The session after all that happens. -/
def run (i limit : Nat) (s : Session) (es : List Record) : Session :=
  es.foldl (next i limit) s

section

variable {i limit : Nat} {s : Session} {es fs : List Record}

theorem run_append : s.run i limit (es ++ fs) = (s.run i limit es).run i limit fs :=
  List.foldl_append

theorem follows_append : s.Follows i limit (es ++ fs) ↔
    s.Follows i limit es ∧ (s.run i limit es).Follows i limit fs := by
  induction es generalizing s with
  | nil => exact (and_iff_right trivial).symm
  | cons e es ih => exact (and_congr_right fun _ => ih).trans and_assoc.symm

/-- What leaves the session as it is. -/
theorem run_saw {u : Nat} {es : List Effect}
    (h : ∀ e ∈ es, s.next i limit (.saw u e) = s ∧ s.Allows i limit (.saw u e)) :
    s.run i limit (es.map (.saw u)) = s ∧ s.Follows i limit (es.map (.saw u)) := by
  induction es with
  | nil => exact ⟨rfl, trivial⟩
  | cons e es ih =>
    rw [List.forall_mem_cons] at h
    obtain ⟨⟨hnext, hallows⟩, h⟩ := h
    obtain ⟨hrun, hfollows⟩ := ih h
    refine ⟨?_, hallows, ?_⟩
    · rw [List.map_cons, run, List.foldl_cons, hnext]
      exact hrun
    · rw [hnext]
      exact hfollows

/-- What is seen of another worker, or of a call whose reply is not read here, does not matter. -/
theorem next_saw_of_other (u : Nat) {e : Effect} (he : e.worker? ≠ some i)
    (hended : ∀ c t, s.reading = some (c, t) → ∀ o, e ≠ .ended c o) :
    s.next i limit (.saw u e) = s ∧ s.Allows i limit (.saw u e) := by
  have hother : ∀ j, e.worker? = some j → j ≠ i := fun j hj hji => he (hji ▸ hj)
  cases e with
  | obtained j c => exact ⟨if_neg (hother j rfl), trivial⟩
  | wrote j t => exact ⟨if_neg (hother j rfl), fun hj => absurd hj (hother j rfl)⟩
  | completed j c r => exact ⟨rfl, fun hj => absurd hj (hother j rfl)⟩
  | ended c o =>
    have hno : ∀ t, s.reading ≠ some (c, t) := fun t hr => hended c t hr o rfl
    refine ⟨if_neg fun hr => ?_, fun t hr => absurd hr (hno t)⟩
    obtain ⟨⟨d, t⟩, hd, rfl⟩ := Option.map_eq_some_iff.1 hr
    exact hno t hd
  | _ => exact ⟨rfl, trivial⟩

end

end Session

/-- What a session shows of a worker. -/
def Worker.shown (w : Worker) : Bool × List UInt8 × List String × Option Invocation :=
  (w.alive, w.outWaiting, w.unread, w.running?)

namespace Pool

open Relation

/-- The session has an invocation in progress at the time `now`, which has taken the lines `old` and
has `new` before it. -/
structure Reads (limit now : Nat) (s : Session) (inv : Invocation) (old new : List (Nat × String)) :
    Prop where
  /-- Its reply is read. -/
  reading : s.reading = some (inv.call, inv.started)
  /-- The channel holds what it has taken and what is before it. -/
  lines : s.lines = old ++ new
  /-- The decoder has taken the old lines. -/
  decoder : inv.decoder =
    (old.map Prod.snd).foldl Decoder.next (Decoder.fresh inv.call.event.requestId)
  /-- None of them has completed the reply. -/
  partly : ∀ l ∈ old, (Decoder.fresh inv.call.event.requestId).completes l.2 = false
  /-- It has begun and is not overdue. -/
  time : inv.started ≤ now ∧ now ≤ inv.started + limit
  /-- All lines were there when it began, or were printed in time. -/
  seen : ∀ l ∈ s.lines, l.1 ≤ inv.started ∨ l.1 < inv.started + limit
  /-- No line is yet to come. -/
  past : ∀ l ∈ s.lines, l.1 ≤ now
  /-- It is now that the new lines can be read. -/
  present : ∀ l ∈ new, now ≤ max inv.started l.1

/-- The session agrees with the worker at the time `now`. -/
structure Fits (limit now : Nat) (s : Session) (w : Worker) : Prop where
  /-- The same bytes wait. -/
  waiting : w.outWaiting = s.waiting
  /-- No line is yet to come. -/
  past : ∀ l ∈ s.lines, l.1 ≤ now
  /-- The channel is open while the process is alive. -/
  opened : w.alive = true → s.closes = none
  /-- If no invocation is in progress, the channel holds what nobody has read. -/
  idle : w.running? = none → s.reading = none ∧ w.unread = s.lines.map Prod.snd
  /-- An invocation in progress has taken all lines. -/
  busy : ∀ inv, w.running? = some inv →
    w.alive = true ∧ w.unread = [] ∧ Reads limit now s inv s.lines []

/-- The session agrees with worker `i`. -/
def Agrees (i limit : Nat) (s : Session) (p : Pool) : Prop :=
  ∃ w, p.workers[i]? = some w ∧ Fits limit p.clock s w

/-- What is seen from `p` to `q`, which takes no time, follows the session of worker `i`, and the
session then agrees with the worker. -/
def Leads (i limit : Nat) (s : Session) (p q : Pool) : Prop :=
  q.clock = p.clock ∧ ∃ fs, q.effects = p.effects ++ fs ∧
    s.Follows i limit (fs.map (.saw p.clock)) ∧
      Agrees i limit (s.run i limit (fs.map (.saw p.clock))) q

/-! ### What an invocation reads -/

section

variable {p q : Pool} {i limit now : Nat} {s : Session} {w v : Worker} {inv : Invocation} {c : Call}
  {old new : List (Nat × String)}

theorem running?_eq_none_iff : w.running? = none ↔ ∀ inv, w.hold ≠ .running inv := by
  rw [Option.eq_none_iff_forall_ne_some]
  exact forall_congr' fun inv => not_congr running?_eq_some_iff

theorem running?_passedOn (w : Worker) : w.passedOn.running? = none :=
  running?_eq_none_iff.2 w.hold_passedOn_ne_running

theorem Agrees.fits (h : Agrees i limit s p) (hw : p.workers[i]? = some w) :
    Fits limit p.clock s w := by
  obtain ⟨v, hv, hfits⟩ := h
  rw [hw] at hv
  cases hv
  exact hfits

theorem leads_refl (h : Agrees i limit s p) : Leads i limit s p p :=
  ⟨rfl, [], (List.append_nil _).symm, trivial, h⟩

/-- What is seen before leads to another session. -/
theorem Leads.after {r : Pool} {s' : Session} {fs : List Effect} (h : Leads i limit s' q r)
    (hclock : q.clock = p.clock) (he : q.effects = p.effects ++ fs)
    (hfs : s.Follows i limit (fs.map (.saw p.clock)))
    (hrun : s.run i limit (fs.map (.saw p.clock)) = s') : Leads i limit s p r := by
  obtain ⟨hclock', gs, he', hgs, hagrees⟩ := h
  rw [hclock] at hgs hagrees
  refine ⟨hclock'.trans hclock, fs ++ gs, ?_, ?_, ?_⟩
  · rw [he', he, List.append_assoc]
  · rw [List.map_append, Session.follows_append, hrun]
    exact ⟨hfs, hgs⟩
  · rw [List.map_append, Session.run_append, hrun]
    exact hagrees

/-- One thing leads to another. -/
theorem Leads.trans {r : Pool} (h : Leads i limit s p q)
    (h' : ∀ s', Agrees i limit s' q → Leads i limit s' q r) : Leads i limit s p r := by
  obtain ⟨hclock, fs, he, hfs, hagrees⟩ := h
  exact (h' _ hagrees).after hclock he hfs rfl

/-- What is seen before leaves the session as it is. -/
theorem Leads.after_ignored {r : Pool} {fs : List Effect} (h : Leads i limit s q r)
    (hclock : q.clock = p.clock) (he : q.effects = p.effects ++ fs)
    (hfs : ∀ e ∈ fs, s.next i limit (.saw p.clock e) = s ∧ s.Allows i limit (.saw p.clock e)) :
    Leads i limit s p r := by
  obtain ⟨hrun, hfollows⟩ := Session.run_saw hfs
  exact h.after hclock he hfollows hrun

/-- A session agrees with every worker that shows the same. -/
theorem Fits.of_shown (h : Fits limit now s w) (hv : v.shown = w.shown) : Fits limit now s v := by
  obtain ⟨halive, hwaiting, hunread, hrunning⟩ : v.alive = w.alive ∧ v.outWaiting = w.outWaiting ∧
      v.unread = w.unread ∧ v.running? = w.running? := by
    simpa [Worker.shown] using hv
  refine ⟨?_, h.past, ?_, ?_, ?_⟩
  · rw [hwaiting]
    exact h.waiting
  · rw [halive]
    exact h.opened
  · rw [hrunning, hunread]
    exact h.idle
  · rw [hrunning, hunread, halive]
    exact h.busy

/-- An invocation that has its reply, has the one that a read gives now. -/
theorem Reads.completes (h : Reads limit now s inv old new)
    (hd : (inv.decoder.run (new.map Prod.snd)).done = true) : ∃ rest,
    (inv.decoder.run (new.map Prod.snd)).rest = rest.map Prod.snd ∧ (∀ l ∈ rest, l ∈ s.lines) ∧
      (s.result limit inv.call inv.started).ending =
        (.reply (inv.decoder.run (new.map Prod.snd)).decoder.reply, now, ⟨rest, s.closes⟩) := by
  obtain ⟨before, line, hnew, hbefore, hline, hdecoder⟩ := Decoder.run_of_done hd
  obtain ⟨ls, ks, rfl, hls, hks⟩ := List.map_eq_append_iff.1 hnew
  obtain ⟨l, rest, rfl, hl, hrest⟩ := List.map_eq_cons_iff.1 hks
  have hcompletes : ∀ x, inv.decoder.completes x =
      (Decoder.fresh inv.call.event.requestId).completes x := by
    intro x
    rw [h.decoder, Decoder.completes_foldl_next]
  have hlines : s.lines = (old ++ ls) ++ l :: rest := by rw [h.lines, List.append_assoc]
  have hmem : ∀ k ∈ (old ++ ls) ++ [l], k ∈ s.lines := by
    intro k hk
    rw [hlines, List.append_cons]
    exact List.mem_append_left _ hk
  have hno : ∀ k ∈ old ++ ls, (Decoder.fresh inv.call.event.requestId).completes k.2 = false := by
    intro k hk
    rcases List.mem_append.1 hk with hk | hk
    · exact h.partly k hk
    · rw [← hcompletes]
      refine hbefore _ ?_
      rw [← hls]
      exact List.mem_map_of_mem hk
  have hc : (Decoder.fresh inv.call.event.requestId).completes l.2 = true := by
    rw [← hcompletes, hl]
    exact hline
  refine ⟨rest, hrest.symm, fun k hk => ?_, ?_⟩
  · rw [hlines]
    exact List.mem_append_right _ (List.mem_cons_of_mem _ hk)
  · have hread := Channel.readReply_of_completes (c := s.channel) hlines
      (fun k hk => h.seen k (hmem k hk)) hno hc h.time.1 (fun k hk => h.past k (hmem k hk))
      (h.present l (List.mem_append_right _ List.mem_cons_self))
    refine hread.trans ?_
    rw [hdecoder, ← hls, ← hl, List.map_append, List.foldl_append, ← h.decoder]
    rfl

/-- An invocation that reads on has taken all lines. -/
theorem Reads.reads_on (h : Reads limit now s inv old new)
    (hd : (inv.decoder.run (new.map Prod.snd)).done = false) :
    Reads limit now s { inv with decoder := (inv.decoder.run (new.map Prod.snd)).decoder }
      s.lines [] := by
  obtain ⟨hdecoder, -, hno⟩ := Decoder.run_of_not_done hd
  refine ⟨h.reading, (List.append_nil _).symm, ?_, ?_, h.time, h.seen, h.past,
    fun l hl => absurd hl List.not_mem_nil⟩
  · rw [hdecoder, h.lines, List.map_append, List.foldl_append, ← h.decoder]
  · intro l hl
    rw [h.lines] at hl
    rcases List.mem_append.1 hl with hl | hl
    · exact h.partly l hl
    · have hnot := hno l.2 (List.mem_map_of_mem hl)
      rwa [h.decoder, Decoder.completes_foldl_next] at hnot

/-- A worker that passes on has no invocation in progress. -/
theorem Fits.passedOn (hreading : s.reading = none) (hwaiting : v.outWaiting = s.waiting)
    (hpast : ∀ l ∈ s.lines, l.1 ≤ now) (hopen : v.alive = true → s.closes = none)
    (hunread : v.unread = s.lines.map Prod.snd) : Fits limit now s v.passedOn := by
  refine ⟨?_, hpast, ?_, fun _ => ⟨hreading, ?_⟩, fun inv hinv => ?_⟩
  · rw [v.outWaiting_passedOn, hwaiting]
  · rw [v.alive_passedOn]
    exact hopen
  · rw [v.unread_passedOn, hunread]
  · rw [running?_passedOn] at hinv
    cases hinv

/-- The end of the invocation in progress is the end of the read, and the channel keeps what the
worker has left. -/
theorem leads_done {t : Nat} {o : ReadOutcome} {rest : List (Nat × String)} {fs : List Effect}
    (hreading : s.reading = some (c, t))
    (hend : (s.result limit c t).ending = (o, p.clock, ⟨rest, s.closes⟩))
    (hw : p.workers[i]? = some w) (hws : q.workers = p.workers.set i v.passedOn)
    (hclock : q.clock = p.clock) (he : q.effects = p.effects ++ (fs ++ [.ended c (o.outcome i)]))
    (hfs : ∀ e ∈ fs, s.next i limit (.saw p.clock e) = s ∧ s.Allows i limit (.saw p.clock e))
    (hunread : v.unread = rest.map Prod.snd) (hpast : ∀ l ∈ rest, l.1 ≤ p.clock)
    (hopen : v.alive = true → s.closes = none) (hwaiting : v.outWaiting = s.waiting) :
    Leads i limit s p q := by
  have houtcome : (s.result limit c t).outcome = o := congrArg Prod.fst hend
  have htime : (s.result limit c t).time = p.clock := congrArg (·.2.1) hend
  have hchannel : (s.result limit c t).channel = ⟨rest, s.closes⟩ := congrArg (·.2.2) hend
  have hdone : s.run i limit [.saw p.clock (.ended c (o.outcome i))] =
      { s with lines := rest, reading := none } := by
    simp [Session.run, Session.next, Session.done, hreading, hchannel]
  obtain ⟨hrun, hfollows⟩ := Session.run_saw hfs
  refine ⟨hclock, _, he, ?_, ?_⟩
  · rw [List.map_append, Session.follows_append, hrun]
    refine ⟨hfollows, fun t' ht' => ?_, trivial⟩
    obtain rfl : t = t' := congrArg Prod.snd (Option.some.inj (hreading.symm.trans ht'))
    rw [houtcome, htime]
    exact ⟨rfl, rfl⟩
  · rw [List.map_append, Session.run_append, hrun]
    refine ⟨v.passedOn, ?_, ?_⟩
    · rw [hws, List.getElem?_set_self (List.getElem?_eq_some_iff.1 hw).1]
    · rw [List.map_singleton, hdone, hclock]
      exact .passedOn rfl hwaiting hpast hopen hunread

section

variable (hw : p.workers[i]? = some w) (hinv : w.hold = .running inv)
include hw hinv

/-- An invocation ends with its reply. -/
theorem proceed_of_done (hd : (inv.decoder.run w.unread).done = true) :
    (p.proceed i).workers =
        p.workers.set i ({ w with unread := (inv.decoder.run w.unread).rest } : Worker).passedOn ∧
      (p.proceed i).effects = p.effects ++
        ((inv.decoder.run w.unread).complaints.map .complained ++
          [.completed i inv.call (inv.decoder.run w.unread).decoder.reply,
            .ended inv.call (.reply (inv.decoder.run w.unread).decoder.reply)]) := by
  unfold proceed
  simp only [hw, hinv]
  rw [if_pos hd]
  exact ⟨workers_finish_notes hw _ _ _ _ _, effects_finish_notes hw _ _ _ _ _⟩

variable (hd : (inv.decoder.run w.unread).done = false)
include hd

/-- An invocation fails with the end of the output. -/
theorem proceed_of_closed (ha : w.alive = false) :
    (p.proceed i).workers = p.workers.set i ({ w with
        unread := (inv.decoder.run w.unread).rest
        terminated := true } : Worker).passedOn ∧
      (p.proceed i).effects = p.effects ++
        ((inv.decoder.run w.unread).complaints.map .complained ++
          [.ended inv.call (.failed (.closed i))]) := by
  unfold proceed
  simp only [hw, hinv]
  rw [if_neg (by simp [hd]), if_pos (by simp [ha]), ← List.append_assoc]
  exact ⟨workers_finish_setWorker (p := p.notes _) hw _ _ _,
    effects_finish_setWorker (p := p.notes _) hw _ _ _⟩

/-- An invocation ends because its time is up. -/
theorem proceed_of_due (ha : w.alive = true)
    (ht : inv.started + p.settings.workerTimeout ≤ p.clock) :
    (p.proceed i).workers =
        p.workers.set i ({ w with unread := (inv.decoder.run w.unread).rest } : Worker).passedOn ∧
      (p.proceed i).effects = p.effects ++
        ((inv.decoder.run w.unread).complaints.map .complained ++ [.ended inv.call timedOut]) := by
  unfold proceed
  simp only [hw, hinv]
  rw [if_neg (by simp [hd]), if_neg (by simp [ha]), ← List.append_assoc]
  split
  next =>
    exact ⟨workers_finish_setWorker (p := p.notes _) hw _ _ _,
      effects_finish_setWorker (p := p.notes _) hw _ _ _⟩
  next hn => exact absurd ht hn

/-- An invocation reads on. -/
theorem proceed_of_early (ha : w.alive = true)
    (ht : ¬ inv.started + p.settings.workerTimeout ≤ p.clock) :
    (p.proceed i).workers[i]? = some { w with
        unread := (inv.decoder.run w.unread).rest
        hold := .running { inv with decoder := (inv.decoder.run w.unread).decoder } } ∧
      (p.proceed i).effects =
        p.effects ++ (inv.decoder.run w.unread).complaints.map .complained := by
  unfold proceed
  simp only [hw, hinv]
  rw [if_neg (by simp [hd]), if_neg (by simp [ha])]
  split
  next hdue => exact absurd hdue ht
  next => exact ⟨getElem?_setWorker (p := p.notes _) hw _, rfl⟩

end

/-- An invocation in progress on worker `i` reads what a read takes of the channel, and ends when
and as that read does. -/
theorem leads_proceed (hw : p.workers[i]? = some w) (hinv : w.hold = .running inv)
    (hunread : w.unread = new.map Prod.snd) (h : Reads limit p.clock s inv old new)
    (hlimit : p.settings.workerTimeout = limit) (hwaiting : w.outWaiting = s.waiting)
    (hopen : w.alive = true → s.closes = none)
    (hclosed : w.alive = false → s.closes = some p.clock ∧ p.clock < inv.started + limit) :
    Leads i limit s p (p.proceed i) := by
  have hclock : (p.proceed i).clock = p.clock := clock_of_scene (scene_proceed p i)
  obtain ⟨hstarted, hdue⟩ := h.time
  have hcomplaints : ∀ e ∈ (inv.decoder.run w.unread).complaints.map Effect.complained,
      s.next i limit (.saw p.clock e) = s ∧ s.Allows i limit (.saw p.clock e) := by
    intro e he
    obtain ⟨b, -, rfl⟩ := List.mem_map.1 he
    exact ⟨rfl, trivial⟩
  by_cases hd : (inv.decoder.run w.unread).done = true
  · obtain ⟨hws, he⟩ := proceed_of_done hw hinv hd
    have hd' := hd
    rw [hunread] at hd'
    obtain ⟨rest, hrest, hsub, hend⟩ := h.completes hd'
    rw [← hunread] at hrest hend
    rw [List.append_cons _ (Effect.completed _ _ _)] at he
    refine leads_done h.reading hend hw hws hclock he ?_ hrest (fun l hl => h.past l (hsub l hl))
      hopen hwaiting
    rw [List.forall_mem_append, List.forall_mem_singleton]
    refine ⟨hcomplaints, rfl, fun _ => ⟨inv.started, h.reading, ?_, ?_⟩⟩
    · exact congrArg Prod.fst hend
    · exact congrArg (·.2.1) hend
  · have hd := Bool.eq_false_iff.2 hd
    obtain ⟨-, hrest, -⟩ := Decoder.run_of_not_done hd
    have hd' := hd
    rw [hunread] at hd'
    have hon := h.reads_on hd'
    rw [← hunread] at hon
    have hno : ∀ l ∈ s.lines, (Decoder.fresh inv.call.event.requestId).completes l.2 = false :=
      hon.partly
    cases ha : w.alive with
    | false =>
      obtain ⟨hcloses, hin⟩ := hclosed ha
      have hend := Channel.readReply_of_closed (c := s.channel) hcloses (.inr hin) h.seen hno
        hstarted h.past
      rw [← hcloses] at hend
      obtain ⟨hws, he⟩ := proceed_of_closed hw hinv hd ha
      exact leads_done h.reading hend hw hws hclock he hcomplaints hrest (by simp) hopen hwaiting
    | true =>
      have hcloses := hopen ha
      have hend := Channel.readReply_of_open (c := s.channel) hcloses h.seen hno
      rw [← hcloses] at hend
      by_cases ht : inv.started + p.settings.workerTimeout ≤ p.clock
      · obtain ⟨hws, he⟩ := proceed_of_due hw hinv hd ha ht
        rw [hlimit] at ht
        rw [Nat.le_antisymm ht hdue] at hend
        exact leads_done h.reading hend hw hws hclock he hcomplaints hrest (by simp) hopen hwaiting
      · obtain ⟨hget, he⟩ := proceed_of_early hw hinv hd ha ht
        refine Leads.after_ignored (leads_refl ⟨_, hget, ?_⟩) hclock he hcomplaints
        rw [hclock]
        refine ⟨hwaiting, h.past, fun _ => hcloses, fun hidle => ?_, fun inv' hinv' => ?_⟩
        · cases hidle
        · cases hinv'
          exact ⟨ha, hrest, hon⟩

end

end Pool

end FunctionHost
