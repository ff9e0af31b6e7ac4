import FunctionHost.Proofs.Pool.Parts
import FunctionHost.Proofs.Reply.Transcript
import Mathlib.Data.List.Nodup
/-!
# What a worker has read

An interpreter's output has no frame, and an invocation can end in the middle of a block, so the
next one begins to read anywhere. What was read, with what is left to read, is all that the
interpreter printed since its launch, and the decoder of an invocation is as if it had read all of
it: what was read before the call came has no marker of its request (`Track`).

Main statement: `Track.reply_eq`, the reply that an invocation reads to the end is the one printed
for its call.
-/

namespace FunctionHost.Pool

open FunctionHost.Output FunctionHost.Marker FunctionHost.Decoder

/-- A worker to whose interpreter `calls` were written and whose interpreter has printed `bytes`. -/
structure Track (calls : List Call) (bytes : List UInt8) (w : Worker) : Prop where
  /-- What follows the last newline waits. -/
  waiting : w.alive = true → w.outWaiting = (cut bytes).2
  /-- What was taken and what is left are all the lines there were, and the decoder of an invocation
  is as if it had taken all that was taken. -/
  lines : ∃ taken, taken ++ w.unread = linesOf (!w.alive) bytes ∧
    ∀ inv, w.hold = .running inv → inv.decoder = taken.foldl next (fresh inv.call.requestId)
  /-- The call that reads was written to the interpreter. -/
  sent : ∀ inv, w.hold = .running inv → inv.call ∈ calls

/-- A worker has the output of another, and no new invocation. -/
structure Like (v w : Worker) : Prop where
  /-- Its process lives as long. -/
  alive : v.alive = w.alive
  /-- The same bytes wait. -/
  outWaiting : v.outWaiting = w.outWaiting
  /-- The same lines are left. -/
  unread : v.unread = w.unread
  /-- What is in progress was so. -/
  running : ∀ inv, v.hold = .running inv → w.hold = .running inv

theorem Like.refl (w : Worker) : Like w w := ⟨rfl, rfl, rfl, fun _ h => h⟩

theorem Like.passedOn {v w : Worker} (h : Like v w) : Like v.passedOn w where
  alive := v.alive_passedOn.trans h.alive
  outWaiting := v.outWaiting_passedOn.trans h.outWaiting
  unread := v.unread_passedOn.trans h.unread
  running := fun inv hinv => absurd hinv (v.hold_passedOn_ne_running inv)

section

variable {calls : List Call} {bytes : List UInt8} {v w : Worker} (h : Track calls bytes w)
include h

theorem Track.like (hl : Like v w) : Track calls bytes v := by
  obtain ⟨taken, hlines, hdecoder⟩ := h.lines
  refine ⟨fun ha => ?_, ⟨taken, ?_, fun inv hinv => hdecoder inv (hl.running inv hinv)⟩,
    fun inv hinv => h.sent inv (hl.running inv hinv)⟩
  · rw [hl.outWaiting]
    exact h.waiting (hl.alive ▸ ha)
  · rw [hl.unread, hl.alive]
    exact hlines

/-- What is printed is there to be read. -/
theorem Track.feed (ha : w.alive = true) (data : List UInt8) : Track calls (bytes ++ data)
    { w with
      outWaiting := (Output.feed w.outWaiting data).2
      unread := w.unread ++ (Output.feed w.outWaiting data).1 } := by
  obtain ⟨taken, hlines, hdecoder⟩ := h.lines
  rw [h.waiting ha]
  refine ⟨fun _ => ?_, ⟨taken, ?_, hdecoder⟩, h.sent⟩
  · rw [cut_append bytes data]
    rfl
  · rw [ha, Bool.not_true] at hlines ⊢
    rw [linesOf_append, ← hlines, List.append_assoc]

/-- When the output ends, what waits is a line. -/
theorem Track.die (ha : w.alive = true) : Track calls bytes
    { w with
      alive := false
      reading := false
      terminated := true
      outWaiting := []
      errWaiting := []
      unread := w.unread ++ last w.outWaiting } := by
  obtain ⟨taken, hlines, hdecoder⟩ := h.lines
  rw [h.waiting ha]
  refine ⟨fun hf => Bool.noConfusion hf, ⟨taken, ?_, hdecoder⟩, h.sent⟩
  rw [ha, Bool.not_true] at hlines
  rw [Bool.not_false, linesOf_true, ← hlines, List.append_assoc]

/-- A call begins to read where the others stopped; there was nothing for it before. -/
theorem Track.seizedBy (ha : w.alive = true) {c : Call}
    (hnew : ∀ t ∈ linesOf false bytes, Unmarked c.requestId t) (now : Nat) :
    Track (calls ++ [c]) bytes (w.seizedBy c now) := by
  obtain ⟨taken, hlines, -⟩ := h.lines
  refine ⟨h.waiting, ⟨taken, hlines, fun inv hinv => ?_⟩, fun inv hinv => ?_⟩
  · rw [ha, Bool.not_true] at hlines
    cases hinv
    refine (foldl_next_fresh fun t ht => hnew t ?_).symm
    rw [← hlines]
    exact List.mem_append_left _ ht
  · cases hinv
    exact List.mem_append_right _ (List.mem_singleton_self _)

/-- An invocation that has its reply leaves what follows it. -/
theorem Track.completes {inv : Invocation} (hd : (inv.decoder.run w.unread).done = true) :
    Track calls bytes ({ w with unread := (inv.decoder.run w.unread).rest } : Worker).passedOn := by
  obtain ⟨taken, hlines, -⟩ := h.lines
  obtain ⟨before, line, hunread, -⟩ := run_of_done hd
  refine ⟨fun ha => ?_, ⟨taken ++ before ++ [line], ?_, fun inv' hinv' => ?_⟩, fun inv' hinv' => ?_⟩
  · rw [Worker.outWaiting_passedOn]
    exact h.waiting (by simpa using ha)
  · rw [Worker.unread_passedOn, Worker.alive_passedOn, ← hlines]
    conv => rhs; rw [hunread]
    simp
  · exact absurd hinv' (Worker.hold_passedOn_ne_running _ inv')
  · exact absurd hinv' (Worker.hold_passedOn_ne_running _ inv')

variable {inv : Invocation} (hinv : w.hold = .running inv)
include hinv

/-- An invocation that reads on has read what was left. -/
theorem Track.reads (hd : (inv.decoder.run w.unread).done = false) : Track calls bytes
    { w with
      unread := (inv.decoder.run w.unread).rest
      hold := .running { inv with decoder := (inv.decoder.run w.unread).decoder } } := by
  obtain ⟨taken, hlines, hdecoder⟩ := h.lines
  obtain ⟨hrun, hrest, -⟩ := run_of_not_done hd
  refine ⟨h.waiting, ⟨taken ++ w.unread, ?_, fun inv' hinv' => ?_⟩, fun inv' hinv' => ?_⟩
  · rw [hrest, List.append_nil]
    exact hlines
  · cases hinv'
    rw [hrun, List.foldl_append, ← hdecoder inv hinv]
  · cases hinv'
    exact h.sent inv hinv

/-- The reply that an invocation reads to the end is the one printed for its call. -/
theorem Track.reply_eq {answer : Call → Reply} {cs : List Call} {whole : List UInt8}
    (hs : Transcript answer cs whole) (hp : bytes <+: whole) (hfit : ∀ c ∈ cs, Fit c.requestId)
    (hcs : cs <+: calls) (hids : (calls.map Call.requestId).Nodup)
    (hd : (inv.decoder.run w.unread).done = true) :
    (inv.decoder.run w.unread).decoder.reply = answer inv.call := by
  obtain ⟨taken, hlines, hdecoder⟩ := h.lines
  obtain ⟨before, line, hunread, -, hcompletes, hrun⟩ := run_of_done hd
  have hdecoder := hdecoder inv hinv
  have hid : inv.decoder.requestId = inv.call.requestId := by
    rw [hdecoder, requestId_foldl_next]
    rfl
  have hfinish : (Marker.finish inv.call.requestId).toList <:+: line.toList := by
    rw [← hid]
    exact completes_iff.1 hcompletes
  have hall : linesOf (!w.alive) bytes =
      (taken ++ before) ++ line :: (inv.decoder.run w.unread).rest := by
    rw [← hlines, List.append_assoc]
    exact congrArg (taken ++ ·) hunread
  obtain ⟨c, hc, hcid, hreply⟩ :=
    hs.reply hfit hp (hids.sublist (hcs.sublist.map _)) hall hfinish
  obtain rfl : c = inv.call := List.inj_on_of_nodup_map hids (hcs.subset hc) (h.sent inv hinv) hcid
  rw [hrun, ← hreply, List.foldl_append, ← hdecoder]
  exact reply_next_of_completes (by rw [completes_foldl_next]; exact hcompletes)

end

end FunctionHost.Pool
