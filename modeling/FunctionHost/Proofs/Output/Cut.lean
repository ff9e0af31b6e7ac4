import FunctionHost.Output.Lines
import FunctionHost.Proofs.Text.Blank
import FunctionHost.Proofs.Text.Utf8
import Mathlib.Data.List.Induction
/-!
# Lines that arrive in pieces

The lines of an output do not depend on the pieces in which it arrives (`cut_append`), and the first
bytes of an output give its first lines, with the beginning of one more that waits
(`cut_of_prefix`). A line that is cut short has no text in it that the whole line lacks, as long as
the text does not end in a newline, a carriage return or a U+FFFD (`infix_lineText_of_prefix`).
-/

namespace FunctionHost.Output

open FunctionHost.Text

/-- Lines, each with its newline. -/
def joined (ls : List (List UInt8)) : List UInt8 := ls.flatMap (· ++ [newline])

@[simp] theorem joined_nil : joined [] = [] := rfl

@[simp] theorem joined_append (ls ms : List (List UInt8)) :
    joined (ls ++ ms) = joined ls ++ joined ms := by
  simp [joined]

theorem joined_cons (l : List UInt8) (ls : List (List UInt8)) :
    joined (l :: ls) = l ++ [newline] ++ joined ls := rfl

/-! ### Cutting -/

theorem cut_newline (bs : List UInt8) : cut (newline :: bs) = ([] :: (cut bs).1, (cut bs).2) := by
  rw [cut]
  dsimp only
  rw [if_pos rfl]

/-- A byte before a line belongs to it. -/
theorem cut_cons {b : UInt8} (hb : b ≠ newline) (bs : List UInt8) :
    cut (b :: bs) = match (cut bs).1 with
      | [] => ([], b :: (cut bs).2)
      | l :: ls => ((b :: l) :: ls, (cut bs).2) := by
  rw [cut]
  dsimp only
  obtain ⟨ls, r⟩ := cut bs
  cases ls with
  | nil => exact if_neg hb
  | cons l ls => exact if_neg hb

/-- What comes later is cut together with the bytes that wait. -/
theorem cut_append (as bs : List UInt8) :
    cut (as ++ bs) = ((cut as).1 ++ (cut ((cut as).2 ++ bs)).1, (cut ((cut as).2 ++ bs)).2) := by
  induction as with
  | nil => rfl
  | cons a as ih =>
    by_cases ha : a = newline
    · subst ha
      rw [List.cons_append, cut_newline, cut_newline, ih]
      rfl
    · rw [List.cons_append, cut_cons ha, cut_cons ha, ih]
      cases (cut as).1 with
      | nil => rw [List.nil_append, List.nil_append, List.cons_append, cut_cons ha]
      | cons l ls => rfl

/-- Bytes without a newline wait. -/
theorem cut_of_notMem {l : List UInt8} (h : newline ∉ l) : cut l = ([], l) := by
  induction l with
  | nil => rfl
  | cons b l ih =>
    rw [List.mem_cons, not_or] at h
    rw [cut_cons (Ne.symm h.1), ih h.2]

theorem cut_line {l : List UInt8} (h : newline ∉ l) (bs : List UInt8) :
    cut (l ++ [newline] ++ bs) = (l :: (cut bs).1, (cut bs).2) := by
  induction l with
  | nil => exact cut_newline bs
  | cons b l ih =>
    rw [List.mem_cons, not_or] at h
    rw [List.cons_append, List.cons_append, cut_cons (Ne.symm h.1), ih h.2]

/-- Whole lines leave nothing that waits. -/
theorem cut_joined {ls : List (List UInt8)} (h : ∀ l ∈ ls, newline ∉ l) :
    cut (joined ls) = (ls, []) := by
  induction ls with
  | nil => rfl
  | cons l ls ih =>
    rw [List.forall_mem_cons] at h
    rw [joined_cons, cut_line h.1, ih h.2]

/-- What waits has no newline. -/
theorem newline_notMem_cut (bs : List UInt8) : newline ∉ (cut bs).2 := by
  induction bs with
  | nil => exact List.not_mem_nil
  | cons b bs ih =>
    by_cases hb : b = newline
    · rw [hb, cut_newline]
      exact ih
    · rw [cut_cons hb]
      cases (cut bs).1 with
      | nil =>
        rw [List.mem_cons, not_or]
        exact ⟨Ne.symm hb, ih⟩
      | cons l ls => exact ih

/-- The first bytes of lines are the first lines and the beginning of one more. -/
theorem cut_of_prefix {ls : List (List UInt8)} (h : ∀ l ∈ ls, newline ∉ l) {bs : List UInt8}
    (hb : bs <+: joined ls) :
    ∃ k, (cut bs).1 = ls.take k ∧ k ≤ ls.length ∧
      ((cut bs).2 = [] ∨ ∃ l, ls[k]? = some l ∧ (cut bs).2 <+: l) := by
  induction ls generalizing bs with
  | nil =>
    rw [List.prefix_nil.1 hb]
    exact ⟨0, rfl, Nat.le_refl _, .inl rfl⟩
  | cons l ls ih =>
    have hl : newline ∉ l := h l List.mem_cons_self
    rw [joined_cons] at hb
    rcases List.prefix_or_prefix_of_prefix hb (List.prefix_append _ _) with hshort | ⟨t, rfl⟩
    · rcases List.prefix_concat_iff.1 hshort with rfl | hshort
      · refine ⟨1, ?_, Nat.le_add_left _ _, .inl ?_⟩
        · rw [← List.append_nil (l ++ [newline]), cut_line hl]
          rfl
        · rw [← List.append_nil (l ++ [newline]), cut_line hl]
          rfl
      · have hbs : newline ∉ bs := fun hm => hl (hshort.subset hm)
        rw [cut_of_notMem hbs]
        exact ⟨0, rfl, Nat.zero_le _, .inr ⟨l, rfl, hshort⟩⟩
    · obtain ⟨k, hk, hle, hrest⟩ := ih (fun m hm => h m (List.mem_cons_of_mem _ hm))
        ((List.prefix_append_right_inj _).1 hb)
      rw [cut_line hl]
      exact ⟨k + 1, by rw [hk, List.take_succ_cons], Nat.succ_le_succ hle, hrest⟩

/-! ### All lines of an output -/

/-- The lines that an output gives. What waits is a line too when the output has ended. -/
def linesOf (ended : Bool) (bs : List UInt8) : List String :=
  (cut bs).1.map lineText ++ if ended then last (cut bs).2 else []

theorem linesOf_append (bs data : List UInt8) :
    linesOf false (bs ++ data) = linesOf false bs ++ (feed (cut bs).2 data).1 := by
  unfold linesOf feed
  rw [cut_append]
  simp

theorem linesOf_true (bs : List UInt8) : linesOf true bs = linesOf false bs ++ last (cut bs).2 := by
  simp [linesOf]

/-- The lines of an output do not depend on the pieces in which it comes. -/
theorem lines_eq_linesOf {waiting : List UInt8} (h : newline ∉ waiting)
    (pieces : List (List UInt8)) :
    lines waiting pieces = linesOf true (waiting ++ pieces.flatten) := by
  induction pieces generalizing waiting with
  | nil =>
    rw [lines, List.flatten_nil, List.append_nil, linesOf, cut_of_notMem h]
    rfl
  | cons data pieces ih =>
    have hlines : lines waiting (data :: pieces) = (cut (waiting ++ data)).1.map lineText ++
        lines (cut (waiting ++ data)).2 pieces := rfl
    rw [hlines, ih (newline_notMem_cut (waiting ++ data)), List.flatten_cons, ← List.append_assoc,
      linesOf, linesOf, cut_append (waiting ++ data), List.map_append, List.append_assoc]

/-! ### Texts inside a line -/

/-- A text whose last character is not in what follows is found only before it. -/
theorem infix_of_infix_append {x y t : List Char} {z : Char} (hz : z ∉ t)
    (h : x ++ [z] <:+: y ++ t) : x ++ [z] <:+: y := by
  induction t using List.reverseRecOn with
  | nil => rwa [List.append_nil] at h
  | append_singleton t a ih =>
    rw [List.mem_append, not_or, List.mem_singleton] at hz
    rw [← List.append_assoc] at h
    rcases List.infix_concat_iff.1 h with hs | h
    · rcases List.suffix_concat_iff.1 hs with hnil | ⟨u, hu, -⟩
      · simp at hnil
      · exact absurd (List.append_inj_right' hu rfl) (by simpa using hz.2)
    · exact ih hz.1 h

theorem toList_lineText (bs : List UInt8) :
    (lineText bs).toList = dropEndWhile isLineEnd (Utf8.decodeLossy bs) := String.toList_ofList

section

variable {x : List Char} {z : Char}

/-- Taking the line ends off leaves a text that does not end in one. -/
theorem infix_lineText_iff (hz : isLineEnd z = false) (bs : List UInt8) :
    x ++ [z] <:+: (lineText bs).toList ↔ x ++ [z] <:+: Utf8.decodeLossy bs := by
  obtain ⟨t, ht, hends⟩ := exists_dropEndWhile_append isLineEnd (Utf8.decodeLossy bs)
  rw [toList_lineText]
  constructor
  · intro h
    rw [ht]
    exact h.trans (List.prefix_append _ _).isInfix
  · intro h
    rw [ht] at h
    refine infix_of_infix_append (fun hm => ?_) h
    rw [hends z hm] at hz
    cases hz

/-- What stands in a line that is cut short stands in the whole line. -/
theorem infix_lineText_of_prefix (hz : isLineEnd z = false) (hr : z ≠ Utf8.replacement)
    {as bs : List UInt8} (hp : as <+: bs) (h : x ++ [z] <:+: (lineText as).toList) :
    x ++ [z] <:+: (lineText bs).toList := by
  rw [infix_lineText_iff hz] at h ⊢
  obtain ⟨cs, hcs, hread⟩ := Utf8.exists_prefix_of_prefix none hp
  rcases hread with hread | hread
  · rw [Utf8.decodeLossy, hread] at h
    exact h.trans hcs.isInfix
  · rw [Utf8.decodeLossy, hread] at h
    exact (infix_of_infix_append (by simpa using hr) h).trans hcs.isInfix

end

/-! ### Lines of text -/

/-- The bytes of a text have no newline if the text has none. -/
theorem newline_notMem_encode {cs : List Char} (h : '\n' ∉ cs) : newline ∉ Utf8.encode cs := by
  intro hm
  obtain ⟨c, hc, hb⟩ := List.mem_flatMap.1 hm
  exact h (Utf8.eq_newline_of_mem hb ▸ hc)

/-- A text that does not end in a newline or a carriage return is read back from its line. -/
theorem lineText_encode {t : String} (h : ∀ z ∈ t.toList.getLast?, isLineEnd z = false) :
    lineText (Utf8.encode t.toList) = t := by
  rw [lineText, Utf8.decodeLossy_encode, dropEndWhile_of_getLast? h, String.ofList_toList]

end FunctionHost.Output
