import FunctionHost.Reply.Decoder
/-!
# How a decoder goes through lines

A run of a decoder takes lines one by one: those before the first one with the end marker, that one,
and nothing after it; or all of them if none has the end marker.
-/

namespace FunctionHost.Decoder

@[simp] theorem requestId_next (d : Decoder) (line : String) :
    (d.next line).requestId = d.requestId := by
  unfold next
  split
  · rfl
  · split
    · rfl
    · split <;> rfl

@[simp] theorem requestId_foldl_next (d : Decoder) (lines : List String) :
    (lines.foldl next d).requestId = d.requestId := by
  induction lines generalizing d with
  | nil => rfl
  | cons line lines ih => rw [List.foldl_cons, ih, requestId_next]

/-- Which lines complete a reply does not change on the way. -/
@[simp] theorem completes_next (d : Decoder) (line other : String) :
    (d.next line).completes other = d.completes other := by
  unfold completes
  rw [requestId_next]

@[simp] theorem completes_foldl_next (d : Decoder) (lines : List String) (other : String) :
    (lines.foldl next d).completes other = d.completes other := by
  unfold completes
  rw [requestId_foldl_next]

/-- The line that completes a reply adds nothing to it. -/
theorem reply_next_of_completes {d : Decoder} {line : String} (h : d.completes line = true) :
    (d.next line).reply = d.reply := by
  unfold next
  rw [if_pos h]
  rfl

/-- A run that is not done has taken every line, and none of them had the end marker. -/
theorem run_of_not_done {d : Decoder} {lines : List String} (h : (d.run lines).done = false) :
    (d.run lines).decoder = lines.foldl next d ∧ (d.run lines).rest = [] ∧
      ∀ line ∈ lines, d.completes line = false := by
  induction lines generalizing d with
  | nil => exact ⟨rfl, rfl, by simp⟩
  | cons line lines ih =>
    rw [run] at h ⊢
    split at h
    · simp at h
    · rename_i hc
      obtain ⟨hd, hr, hl⟩ := ih h
      rw [if_neg hc]
      refine ⟨hd, hr, fun l hm => ?_⟩
      rcases List.mem_cons.1 hm with rfl | hm
      · exact Bool.eq_false_iff.2 hc
      · rw [← completes_next d line]
        exact hl l hm

/-- A run that is done has stopped at the first line with the end marker. -/
theorem run_of_done {d : Decoder} {lines : List String} (h : (d.run lines).done = true) :
    ∃ before line, lines = before ++ line :: (d.run lines).rest ∧
      (∀ l ∈ before, d.completes l = false) ∧ d.completes line = true ∧
      (d.run lines).decoder = (before.foldl next d).next line := by
  induction lines generalizing d with
  | nil => simp [run] at h
  | cons line lines ih =>
    rw [run] at h ⊢
    by_cases hc : d.completes line = true
    · rw [if_pos hc]
      exact ⟨[], line, rfl, by simp, hc, rfl⟩
    · rw [if_neg hc] at h ⊢
      obtain ⟨before, l, hl, hb, hcl, hd⟩ := ih h
      refine ⟨line :: before, l, by rw [List.cons_append, ← hl], fun x hx => ?_, ?_, hd⟩
      · rcases List.mem_cons.1 hx with rfl | hx
        · exact Bool.eq_false_iff.2 hc
        · rw [← completes_next d line]
          exact hb x hx
      · rw [← completes_next d line]
        exact hcl

end FunctionHost.Decoder
