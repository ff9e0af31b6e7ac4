import FunctionHost.Proofs.Output.Whole
import FunctionHost.Proofs.Pool.Served
import FunctionHost.Proofs.Pool.Track
/-!
# Lines that are delivered

Whatever is done to a pool, a worker is given the lines of all that its interpreter has printed,
once each and in order: those that invocations have taken, and after them those that nobody has
read (`Delivered`). Each move keeps this, because what is printed is cut together with the bytes
that wait, and an invocation takes lines from the front.

Main statement: `delivers_pieces`, the lines of an output do not depend on the writes by which it
came. They are the pieces of its bytes, and the pieces of the text that it is read as.
-/

namespace FunctionHost.Pool

open FunctionHost.Output FunctionHost.Text FunctionHost.Decoder

/-- No call has got worker `i`. -/
def Untouched (i : Nat) (E : List Effect) : Prop := ∀ c, .obtained i c ∉ E

/-- Worker `i` is given the lines of `bytes`, which its interpreter has printed; `E` was seen. -/
structure Delivered (i : Nat) (E : List Effect) (bytes : List UInt8) (w : Worker) : Prop where
  /-- What follows the last newline waits. -/
  waiting : w.alive = true → w.outWaiting = (cut bytes).2
  /-- What was taken and what is left are all the lines there were. -/
  lines : ∃ taken, taken ++ w.unread = linesOf (!w.alive) bytes ∧ (Untouched i E → taken = [])
  /-- Without a call nobody reads. -/
  idle : Untouched i E → ∀ inv, w.hold ≠ .running inv

section

variable {i k : Nat} {E fs : List Effect} {bytes data : List UInt8} {p q : Pool} {w v : Worker}

theorem Untouched.of_append (h : Untouched i (E ++ fs)) : Untouched i E :=
  fun c hc => h c (List.mem_append_left _ hc)

/-! ### One worker -/

section

variable (h : Delivered i E bytes w)
include h

/-- A worker with the same output, and no new invocation. -/
theorem Delivered.like (hl : Like v w) : Delivered i (E ++ fs) bytes v := by
  obtain ⟨taken, hlines, hnone⟩ := h.lines
  refine ⟨fun ha => ?_, ⟨taken, ?_, fun hu => hnone hu.of_append⟩, fun hu inv hinv => ?_⟩
  · rw [hl.outWaiting]
    exact h.waiting (hl.alive ▸ ha)
  · rw [hl.unread, hl.alive]
    exact hlines
  · exact h.idle hu.of_append inv (hl.running inv hinv)

/-- Lines are taken from the front, now that a call has got the worker. -/
theorem Delivered.takes (hu : ¬ Untouched i (E ++ fs)) (ha : v.alive = w.alive)
    (hw : v.outWaiting = w.outWaiting) (hrest : v.unread <:+ w.unread) :
    Delivered i (E ++ fs) bytes v := by
  obtain ⟨taken, hlines, -⟩ := h.lines
  obtain ⟨more, hmore⟩ := hrest
  refine ⟨fun hv => ?_, ⟨taken ++ more, ?_, fun hno => absurd hno hu⟩, fun hno => absurd hno hu⟩
  · rw [hw]
    exact h.waiting (ha ▸ hv)
  · rw [List.append_assoc, hmore, ha]
    exact hlines

/-- An invocation in progress takes lines. -/
theorem Delivered.reads {inv : Invocation} (hinv : w.hold = .running inv)
    (ha : v.alive = w.alive) (hw : v.outWaiting = w.outWaiting) (hrest : v.unread <:+ w.unread) :
    Delivered i (E ++ fs) bytes v :=
  h.takes (fun hu => h.idle hu.of_append inv hinv) ha hw hrest

/-- What is printed is there to be read. -/
theorem Delivered.feed (ha : w.alive = true) (data : List UInt8) : Delivered i E (bytes ++ data)
    { w with
      outWaiting := (Output.feed w.outWaiting data).2
      unread := w.unread ++ (Output.feed w.outWaiting data).1 } := by
  obtain ⟨taken, hlines, hnone⟩ := h.lines
  rw [h.waiting ha]
  refine ⟨fun _ => ?_, ⟨taken, ?_, hnone⟩, h.idle⟩
  · rw [cut_append bytes data]
    rfl
  · rw [ha, Bool.not_true] at hlines ⊢
    rw [linesOf_append, ← hlines, List.append_assoc]

/-- When the output ends, what waits is a line. -/
theorem Delivered.die (ha : w.alive = true) : Delivered i (E ++ fs) bytes
    { w with
      alive := false
      reading := false
      terminated := true
      outWaiting := []
      errWaiting := []
      unread := w.unread ++ last w.outWaiting } := by
  obtain ⟨taken, hlines, hnone⟩ := h.lines
  rw [h.waiting ha]
  refine ⟨fun hf => Bool.noConfusion hf, ⟨taken, ?_, fun hu => hnone hu.of_append⟩,
    fun hu => h.idle hu.of_append⟩
  rw [ha, Bool.not_true] at hlines
  rw [Bool.not_false, linesOf_true, ← hlines, List.append_assoc]

end

/-- What an invocation leaves is the end of what was there. -/
theorem rest_suffix (d : Decoder) (ls : List String) : (d.run ls).rest <:+ ls := by
  by_cases hd : (d.run ls).done = true
  · obtain ⟨before, line, hls, -⟩ := run_of_done hd
    exact ⟨before ++ [line], by rw [List.append_assoc]; exact hls.symm⟩
  · rw [(run_of_not_done (Bool.eq_false_iff.2 hd)).2.1]
    exact List.nil_suffix

/-! ### A pool -/

/-- Worker `i`, if there is one, is given the lines of `bytes`. -/
def DeliveredAt (i : Nat) (bytes : List UInt8) (E : List Effect) (p : Pool) : Prop :=
  ∀ w, p.workers[i]? = some w → Delivered i E bytes w

section

variable (h : DeliveredAt i bytes E p)
include h

/-- The workers stay. -/
theorem DeliveredAt.same (hws : q.workers = p.workers) : DeliveredAt i bytes (E ++ fs) q := by
  intro u hu
  rw [hws] at hu
  exact (h u hu).like (Like.refl u)

/-- One worker changes. -/
theorem DeliveredAt.set (hw : p.workers[k]? = some w) (hws : q.workers = p.workers.set k v)
    (hv : k = i → Delivered i E bytes w → Delivered i (E ++ fs) bytes v) :
    DeliveredAt i bytes (E ++ fs) q := by
  intro u hu
  obtain ⟨rfl, rfl⟩ | ⟨-, hu⟩ := worker_of_set hws hu
  · exact hv rfl (h w hw)
  · exact (h u hu).like (Like.refl u)

theorem DeliveredAt.like (hw : p.workers[k]? = some w) (hws : q.workers = p.workers.set k v)
    (hl : Like v w) : DeliveredAt i bytes (E ++ fs) q :=
  h.set hw hws fun _ hd => hd.like hl

end

theorem DeliveredAt.seen {es : List Effect} (he : q.effects = p.effects ++ fs)
    (h : DeliveredAt i bytes (es ++ p.effects ++ fs) q) :
    DeliveredAt i bytes (es ++ q.effects) q := by
  rwa [he, ← List.append_assoc]

theorem DeliveredAt.stir {es : List Effect} (hm : Stir p q)
    (h : DeliveredAt i bytes (es ++ p.effects) p) : DeliveredAt i bytes (es ++ q.effects) q := by
  cases hm with
  | @begins r k c w hc hw hr =>
    rw [hc.workers] at hw
    refine .seen (hc.effects_seize w) (h.set hw (hc.workers_seize w) fun hki hd => ?_)
    refine hd.takes (fun hu => hu c ?_) rfl rfl List.suffix_rfl
    rw [hki]
    simp
  | @fails r k c w hc hw hr =>
    have hws := hc.workers_fail hw (.failed (.write k))
    have he := hc.effects_fail hw (.failed (.write k))
    rw [hc.workers] at hw
    exact .seen he (h.like hw hws (Like.refl w).passedOn)
  | turnsAway b hr hf hd => exact .seen (effects_note _ _) (h.same rfl)
  | reads hw hinv hd =>
    exact .seen rfl (h.set hw rfl fun _ hd => hd.reads hinv rfl rfl (rest_suffix _ _))
  | completes hw hinv hd =>
    refine .seen (effects_finish_notes hw _ _ _ _ _)
      (h.set hw (workers_finish_notes hw _ _ _ _ _) fun _ hd => ?_)
    refine hd.reads hinv (Worker.alive_passedOn _) (Worker.outWaiting_passedOn _) ?_
    rw [Worker.unread_passedOn]
    exact rest_suffix _ _
  | @closes k w inv hw hinv ha hu =>
    have hlike : Like { w with terminated := true } w := ⟨rfl, rfl, rfl, fun _ hi => hi⟩
    exact .seen (effects_finish_setWorker hw _ _ _)
      (h.like hw (workers_finish_setWorker hw _ _ _) hlike.passedOn)
  | expires hw hinv ht =>
    exact .seen (effects_finish hw _ _) (h.like hw (workers_finish hw _ _) (Like.refl _).passedOn)
  | givesUp => exact .seen (effects_expireWaiting p _) (h.same rfl)
  | errs data hw => exact .seen rfl (h.like hw rfl ⟨rfl, rfl, rfl, fun _ hi => hi⟩)
  | deafens hw =>
    exact .seen (List.append_nil _).symm (h.like hw rfl ⟨rfl, rfl, rfl, fun _ hi => hi⟩)
  | _ => exact .seen (List.append_nil _).symm (h.same rfl)

theorem DeliveredAt.move {es : List Effect} (hm : Move p q)
    (h : DeliveredAt i bytes (es ++ p.effects) p) : DeliveredAt i bytes (es ++ q.effects) q := by
  cases hm with
  | stirs hs => exact h.stir hs
  | wakesAll => exact .seen (List.append_nil _).symm (h.same rfl)
  | dies hw ha => exact .seen rfl (h.set hw rfl fun _ hd => hd.die ha)
  | reports => exact .seen (effects_note _ _) (h.same rfl)
  | marks hw ha =>
    exact .seen (List.append_nil _).symm (h.like hw rfl ⟨rfl, rfl, rfl, fun _ hi => hi⟩)

/-- What an action does by itself delivers what it prints. -/
theorem DeliveredAt.does {a : Action} (hd : Does p a q) (h : DeliveredAt i bytes E p) :
    DeliveredAt i (bytes ++ printedBy i p a) (E ++ q.effects) q := by
  cases hd with
  | enters _ _ hprint he =>
    rw [hprint, List.append_nil]
    cases he with
    | looks => exact h.same rfl
    | granted hw hf => exact h.like hw rfl ⟨rfl, rfl, rfl, fun _ hi => nomatch hi⟩
    | queued hw ht hf => exact h.like hw rfl ⟨rfl, rfl, rfl, fun _ hi => hi⟩
    | rejected hw ho => exact h.same rfl
  | drops _ _ hprint hd =>
    rw [hprint, List.append_nil]
    cases hd with
    | running hw hinv hn =>
      exact h.like hw (workers_release (p := p.unseen) hw) (Like.refl _).passedOn
    | queued hw hq => exact h.like hw rfl ⟨rfl, rfl, rfl, fun _ hi => hi⟩
    | waiting hw => exact h.same rfl
  | @prints k data _ _ _ _ hself hother hp =>
    cases hp with
    | @feeds w hw ha =>
      by_cases hki : k = i
      · subst hki
        intro u hu
        rw [workers_setWorker, List.getElem?_set_self (List.getElem?_eq_some_iff.1 hw).1] at hu
        cases hu
        rw [hself, show E ++ (p.unseen.setWorker k _).effects = E from List.append_nil E]
        exact (h w hw).feed ha data
      · rw [hother i (Ne.symm hki), List.append_nil]
        exact h.set hw rfl fun hi _ => absurd hi hki
  | other _ _ hprint =>
    rw [hprint, List.append_nil]
    exact h.same rfl

end

/-! ### Runs -/

/-- In every run each worker is given the lines of what its interpreter has printed. -/
theorem delivered_after (s : PoolSettings) (n : Nat) (as : List Action) (i : Nat) :
    DeliveredAt i (printed i (launched s n) as) (history (launched s n) as)
      ((launched s n).after as) := by
  refine seen_induction s n
    (motive := fun as E p => DeliveredAt i (printed i (launched s n) as) E p) ?_ ?_ ?_ as
  · intro w hw
    rw [launched_worker (List.mem_of_getElem? hw)]
    exact ⟨fun _ => rfl, ⟨[], rfl, fun _ => rfl⟩, fun _ inv hinv => nomatch hinv⟩
  · intro as a q hd h
    rw [printed_concat]
    exact h.does hd
  · intro as gone es p q _ _ hm h
    exact h.move hm

/-- The lines of an output that has ended are the pieces of its bytes, cut after every newline, read
as UTF-8 with replacement, and without the newlines and carriage returns at their ends; and they are
the pieces, without these, of the text that the whole output is read as. So it does not matter in
which pieces the output came. In every run of a pool this is so of each worker whose interpreter has
died: the lines that invocations have taken, and after them those that nobody has read, are these
pieces of all that was printed; and if no call got the worker, none were taken. -/
theorem delivers_pieces :
    (∀ chunks : List (List UInt8),
      lines [] chunks = (pieces newline chunks.flatten).map (ofPiece ∘ Utf8.decodeLossy) ∧
      lines [] chunks = (pieces '\n' (Utf8.decodeLossy chunks.flatten)).map ofPiece) ∧
    ∀ (s : PoolSettings) (n : Nat) (as : List Action) (i : Nat) (w : Worker),
      ((launched s n).after as).workers[i]? = some w → w.alive = false →
      let bytes := printed i (launched s n) as
      ∃ taken, taken ++ w.unread = (pieces newline bytes).map (ofPiece ∘ Utf8.decodeLossy) ∧
        taken ++ w.unread = (pieces '\n' (Utf8.decodeLossy bytes)).map ofPiece ∧
        ((∀ c, .obtained i c ∉ history (launched s n) as) → taken = []) := by
  refine ⟨fun chunks => ?_, fun s n as i w hw ha => ?_⟩
  · rw [lines_eq_linesOf List.not_mem_nil, List.nil_append]
    exact linesOf_eq_pieces _
  · obtain ⟨taken, hlines, hnone⟩ := (delivered_after s n as i w hw).lines
    rw [ha, Bool.not_false] at hlines
    obtain ⟨hbytes, htext⟩ := linesOf_eq_pieces (printed i (launched s n) as)
    exact ⟨taken, hlines.trans hbytes, hlines.trans htext, hnone⟩

/-- A character comes in two writes, and another is cut short by a newline; the last line has no
newline. -/
theorem delivers_pieces_of_cut_characters :
    let as := [Action.stdout 0 [0xE2, 0x82], .stdout 0 [0xAC, 0x0D, 0x0A, 0xF0, 0x9F],
      .stdout 0 [0x0A, 0x62, 0xC3], .exit 0]
    let text : List Char := ['€', '\r', '\n', '\ufffd', '\n', 'b', '\ufffd']
    (∃ w, ((launched .plain 1).after as).workers[0]? = some w ∧ w.alive = false ∧
      w.unread = (pieces '\n' text).map ofPiece) ∧
    (pieces '\n' text).map ofPiece = ["€", "\ufffd", "b\ufffd"] := by
  intro as text
  obtain ⟨w, hw⟩ : ∃ w, ((launched .plain 1).after as).workers[0]? = some w :=
    ⟨_, List.getElem?_eq_getElem (by decide +kernel)⟩
  have hdead : ∀ v ∈ ((launched .plain 1).after as).workers, v.alive = false := by decide +kernel
  have halive : w.alive = false := hdead w (List.mem_of_getElem? hw)
  have htext : Utf8.decodeLossy (printed 0 (launched .plain 1) as) = text := by decide +kernel
  have hseen : history (launched .plain 1) as = [.exitedUnexpectedly 0] := by decide +kernel
  obtain ⟨taken, -, hlines, hnone⟩ := delivers_pieces.2 .plain 1 as 0 w hw halive
  have htaken : taken = [] := hnone fun c hc => by simp [hseen] at hc
  rw [htaken, List.nil_append, htext] at hlines
  exact ⟨⟨w, hw, halive, hlines⟩, by decide +kernel⟩

end FunctionHost.Pool
