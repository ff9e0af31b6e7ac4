import FunctionHost.Proofs.Reply.Block
/-!
# Lines before the start marker

An interpreter can print lines before the block of a request: a banner, or late output for a request
that was given up. A decoder records none of them. Still they are not without effect: a line with
the end marker completes the reply whether anything is recorded or not, and an id can be used twice,
so late output can have the end marker of the very request that is read.

Main statement: `resumes_iff`, lines without the start marker make no difference to what follows
exactly if they have no end marker either; otherwise the first end marker completes a reply that
nothing was recorded of.
-/

namespace FunctionHost.Decoder

open FunctionHost.Http FunctionHost.Marker

/-- The reply that a run has completed, with the lines that are left. -/
def Run.result? (r : Run) : Option (Reply × List String) :=
  if r.done then some (r.decoder.reply, r.rest) else none

section

variable {d : Decoder} {before pre rest : List String} {line : String}

/-- Lines that do not complete the reply are taken one by one. -/
theorem result?_run_append (h : ∀ l ∈ pre, d.completes l = false) :
    (d.run (pre ++ rest)).result? = ((pre.foldl next d).run rest).result? := by
  induction pre generalizing d with
  | nil => rfl
  | cons l pre ih =>
    rw [List.forall_mem_cons] at h
    have htaken : (d.run (l :: pre ++ rest)).result? = ((d.next l).run (pre ++ rest)).result? := by
      rw [List.cons_append, run, if_neg (by simp [h.1])]
      rfl
    rw [htaken, List.foldl_cons]
    exact ih fun m hm => (completes_next d l m).trans (h.2 m hm)

/-- The first line that completes the reply ends the run. -/
theorem result?_run_of_completes (h : ∀ l ∈ before, d.completes l = false)
    (hline : d.completes line = true) :
    (d.run (before ++ line :: rest)).result? = some ((before.foldl next d).reply, rest) := by
  have hline : (before.foldl next d).completes line = true :=
    (completes_foldl_next d before line).trans hline
  rw [result?_run_append h, run, if_pos hline, Run.result?, if_pos rfl,
    reply_next_of_completes hline]

/-- What a run leaves is shorter than what it was given. -/
theorem length_lt_of_result? {y : Reply} (h : (d.run pre).result? = some (y, rest)) :
    rest.length < pre.length := by
  unfold Run.result? at h
  split at h
  next hd =>
    obtain ⟨before, line, hpre, -⟩ := run_of_done hd
    have hlength := congrArg List.length hpre
    rw [List.length_append, List.length_cons] at hlength
    have hrest : (d.run pre).rest = rest := congrArg Prod.snd (Option.some.inj h)
    rw [hrest] at hlength
    omega
  next => cases h

end

section

variable {r : String} {pre rest : List String}

theorem completes_fresh_iff {line : String} :
    (fresh r).completes line = true ↔ (finish r).toList <:+: line.toList := by
  rw [completes_iff, fresh]

theorem completes_fresh_eq_false_iff {line : String} :
    (fresh r).completes line = false ↔ ¬ (finish r).toList <:+: line.toList := by
  rw [completes_eq_false_iff, fresh]

/-- Lines without the markers of a request make no difference to its reply. -/
theorem result?_run_of_unmarked (h : ∀ l ∈ pre, Unmarked r l) :
    ((fresh r).run (pre ++ rest)).result? = ((fresh r).run rest).result? := by
  rw [result?_run_append fun l hl => completes_fresh_eq_false_iff.2 (h l hl).finish,
    foldl_next_fresh h]

/-- The first end marker completes a reply that nothing was recorded of. -/
theorem result?_run_of_finish {before : List String} {line : String}
    (h : ∀ l ∈ before, Unmarked r l) (hline : (finish r).toList <:+: line.toList) :
    ((fresh r).run (before ++ line :: rest)).result? = some (⟨.ok, ""⟩, rest) := by
  rw [result?_run_of_completes (fun l hl => completes_fresh_eq_false_iff.2 (h l hl).finish)
    (completes_fresh_iff.2 hline), foldl_next_fresh h]
  rfl

/-- Lines without the start marker of a request make no difference to what is decoded after them
exactly if they have no end marker of it: the reply is complete at the same line, with the same
status and body, or it is not complete. Otherwise the first line with the end marker completes the
reply, with the status 200 and no body, whatever follows. -/
theorem resumes_iff (r : String) (pre rest : List String)
    (h : ∀ l ∈ pre, ¬ (start r).toList <:+: l.toList) :
    (((fresh r).run (pre ++ rest)).result? = ((fresh r).run rest).result? ↔
      ∀ l ∈ pre, ¬ (finish r).toList <:+: l.toList) ∧
    ∀ before line after, pre = before ++ line :: after →
      (∀ l ∈ before, ¬ (finish r).toList <:+: l.toList) → (finish r).toList <:+: line.toList →
      ((fresh r).run (pre ++ rest)).result? = some (⟨.ok, ""⟩, after ++ rest) := by
  have hfirst : ∀ before line after, pre = before ++ line :: after →
      (∀ l ∈ before, ¬ (finish r).toList <:+: l.toList) → (finish r).toList <:+: line.toList →
      ((fresh r).run (pre ++ rest)).result? = some (⟨.ok, ""⟩, after ++ rest) := by
    rintro before line after rfl hbefore hline
    rw [List.append_assoc, List.cons_append]
    exact result?_run_of_finish
      (fun l hl => ⟨h l (List.mem_append_left _ hl), hbefore l hl⟩) hline
  refine ⟨⟨fun heq => ?_, fun hno => ?_⟩, hfirst⟩
  · cases hdone : ((fresh r).run pre).done with
    | false =>
      exact fun l hl => completes_fresh_eq_false_iff.1 ((run_of_not_done hdone).2.2 l hl)
    | true =>
      -- the reply is complete before the other lines are reached
      obtain ⟨before, line, hpre, hbefore, hline, -⟩ := run_of_done hdone
      have hresult := hfirst before line _ hpre
        (fun l hl => completes_fresh_eq_false_iff.1 (hbefore l hl)) (completes_fresh_iff.1 hline)
      have hlt := length_lt_of_result? (heq.symm.trans hresult)
      rw [List.length_append] at hlt
      omega
  · exact result?_run_of_unmarked fun l hl => ⟨h l hl, hno l hl⟩

end

/-- The reply `201` with the body `x` to the request `r`, as it is printed. -/
def printedReply : List String :=
  ["CMD_OUTPUT_START=r;", "CMD_STATUS_CODE=201;", "CMD_OUTPUT_BODY=x", "CMD_OUTPUT_END=r;"]

/-- A banner before a reply is passed over. -/
theorem resumes_after_banner :
    (∀ l ∈ ["Python 3.12"], ¬ (start "r").toList <:+: l.toList) ∧
      ((fresh "r").run (["Python 3.12"] ++ printedReply)).result? =
        ((fresh "r").run printedReply).result? := by
  have hstart : ∀ l ∈ ["Python 3.12"], ¬ (start "r").toList <:+: l.toList := by decide +kernel
  exact ⟨hstart, (resumes_iff "r" ["Python 3.12"] printedReply hstart).1.2 (by decide +kernel)⟩

/-- The end of the output for a request that was given up completes the reply to the next request of
the same id, before its start marker. -/
theorem completed_by_late_end :
    ¬ ∀ (r : String) (pre rest : List String), (∀ l ∈ pre, ¬ (start r).toList <:+: l.toList) →
      ((fresh r).run (pre ++ rest)).result? = ((fresh r).run rest).result? := by
  intro h
  have hlate := h "r" ["CMD_STATUS_CODE=500;", "CMD_OUTPUT_BODY=late", "CMD_OUTPUT_END=r;"]
    printedReply (by decide +kernel)
  have hresult : ((fresh "r").run (["CMD_STATUS_CODE=500;", "CMD_OUTPUT_BODY=late",
      "CMD_OUTPUT_END=r;"] ++ printedReply)).result? = some (⟨.ok, ""⟩, printedReply) := by
    decide +kernel
  have hreply : ((fresh "r").run printedReply).result? =
      some (⟨⟨201, by omega, by omega⟩, "x"⟩, []) := by
    decide +kernel
  rw [hresult, hreply] at hlate
  cases hlate

end FunctionHost.Decoder
