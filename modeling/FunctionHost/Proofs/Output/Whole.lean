import FunctionHost.Proofs.Output.Cut
import Mathlib.Data.List.SplitBy
/-!
# An output read as a whole

The bytes of an output can be cut after every newline and each piece read as UTF-8, or they can be
read as one text that is then cut after every newline. Both give the same pieces
(`pieces_decodeLossy`): a newline byte is never part of a longer character, so it ends a character
that is under way (`decodeFrom_newline`); a newline is read from no other byte
(`newline_notMem_decodeFrom`); and bytes never vanish (`decodeFrom_eq_nil_iff`).

Main statement: `linesOf_eq_pieces`, the lines of an output that has ended are these pieces without
the newlines and carriage returns at their ends.
-/

namespace FunctionHost

/-! ### Pieces -/

namespace Text

variable {α : Type} [DecidableEq α] {a : α} {l : List α}

/-- A list cut after every `a`. What follows the last is a piece too, unless nothing follows. -/
def pieces (a : α) (s : List α) : List (List α) := s.splitBy fun b _ => b != a

theorem isChain_concat (h : a ∉ l) (z : α) : (l ++ [z]).IsChain fun b _ => b != a := by
  have hne : ∀ b ∈ l, (b != a) = true := fun b hb => bne_iff_ne.2 fun hba => h (hba ▸ hb)
  refine List.Pairwise.isChain (List.pairwise_append.2 ⟨?_, List.pairwise_singleton _ _, ?_⟩)
  · exact List.pairwise_of_forall_mem_list fun b hb _ _ => hne b hb
  · exact fun b hb _ _ => hne b hb

@[simp] theorem pieces_nil (a : α) : pieces a [] = [] := rfl

/-- A list without an `a` is one piece. -/
theorem pieces_of_notMem (h : a ∉ l) (hl : l ≠ []) : pieces a l = [l] :=
  List.splitBy_of_isChain hl (List.isChain_append.1 (isChain_concat h a)).1

/-- What precedes the first `a` is a piece together with it. -/
theorem pieces_line (h : a ∉ l) (s : List α) :
    pieces a (l ++ [a] ++ s) = (l ++ [a]) :: pieces a s := by
  have hcut : ∀ x ∈ (l ++ [a]).getLast?, ∀ y ∈ s.head?, (x != a) = false := by
    intro x hx y _
    rw [List.getLast?_concat, Option.mem_some_iff] at hx
    rw [← hx]
    exact bne_self_eq_false a
  rw [pieces, List.splitBy_append hcut, List.splitBy_of_isChain (by simp) (isChain_concat h a)]
  rfl

/-- Lines and what follows them are the pieces that they are put together of. -/
theorem pieces_flatMap {ls : List (List α)} (h : ∀ l ∈ ls, a ∉ l) (s : List α) :
    pieces a (ls.flatMap (· ++ [a]) ++ s) = ls.map (· ++ [a]) ++ pieces a s := by
  induction ls with
  | nil => rfl
  | cons l ls ih =>
    rw [List.forall_mem_cons] at h
    rw [List.flatMap_cons, List.append_assoc, pieces_line h.1, ih h.2, List.map_cons,
      List.cons_append]

end Text

/-! ### Newlines among bytes and characters -/

namespace Text.Utf8

/-- A character under way whose next byte is no newline, and which comes to no newline. -/
structure Partial.Proper (p : Partial) : Prop where
  /-- The next byte is beyond ASCII. -/
  low : 0x80 ≤ p.low
  /-- With the least next byte, the bits are already too many for a newline. -/
  value : 10 < p.value * 64 + (p.low - 0x80)

/-- Between two characters, or inside one that is proper. -/
def Proper (s : State) : Prop := ∀ p ∈ s, p.Proper

theorem proper_none : Proper none := fun _ hp => by cases hp

section

variable {n : Nat} {p : Partial} {s : State} {b : UInt8}

theorem ofNat_ne_newline (h : n ≠ 10) : Char.ofNat n ≠ '\n' := by
  intro hc
  have hn := congrArg Char.toNat hc
  by_cases hv : n.isValidChar
  · rw [Char.ofNat, dif_pos hv] at hn
    exact h hn
  · rw [Char.ofNat, dif_neg hv] at hn
    cases hn

theorem replacement_ne_newline : replacement ≠ '\n' := by decide

theorem proper_of_opening (h : opening n = .opens p) : p.Proper := by
  unfold opening at h
  repeat' split at h
  all_goals cases h
  all_goals exact ⟨by dsimp only; omega, by dsimp only; omega⟩

theorem eq_of_opening {c : Char} (h : opening n = .whole c) : c = Char.ofNat n := by
  unfold opening at h
  repeat' split at h
  all_goals cases h
  rfl

/-- A byte that begins a character leaves a proper one under way or none, gives no newline unless it
is one, and does not vanish. -/
theorem stepFirst_facts (n : Nat) : Proper (stepFirst n).2 ∧
    (n ≠ 10 → '\n' ∉ (stepFirst n).1) ∧ ((stepFirst n).1 = [] → (stepFirst n).2 ≠ none) := by
  unfold stepFirst
  split
  next c hc =>
    refine ⟨proper_none, fun hn hm => ?_, fun h => absurd h (List.cons_ne_nil _ _)⟩
    rw [eq_of_opening hc] at hm
    exact ofNat_ne_newline hn (List.mem_singleton.1 hm).symm
  next p hp =>
    refine ⟨fun q hq => ?_, fun _ => List.not_mem_nil, fun _ => Option.some_ne_none p⟩
    cases hq
    exact proper_of_opening hp
  next =>
    refine ⟨proper_none, fun _ hm => ?_, fun h => absurd h (List.cons_ne_nil _ _)⟩
    exact replacement_ne_newline (List.mem_singleton.1 hm).symm

/-- The same of any byte after a proper state. -/
theorem step_facts (hs : Proper s) (b : UInt8) : Proper (step s b).2 ∧
    (b ≠ 10 → '\n' ∉ (step s b).1) ∧ ((step s b).1 = [] → (step s b).2 ≠ none) := by
  have hten : b ≠ 10 → b.toNat ≠ 10 := fun hb hn => hb (UInt8.toNat_inj.1 hn)
  obtain ⟨hproper, hnewline, hstays⟩ := stepFirst_facts b.toNat
  unfold step
  dsimp only
  split
  next => exact ⟨hproper, fun hb => hnewline (hten hb), hstays⟩
  next p =>
    have hp := hs p rfl
    have hlow := hp.low
    have hvalue := hp.value
    split
    next hgoes =>
      split
      next =>
        refine ⟨proper_none, fun _ hm => ?_, fun h => absurd h (List.cons_ne_nil _ _)⟩
        exact ofNat_ne_newline (by omega) (List.mem_singleton.1 hm).symm
      next more _ =>
        refine ⟨fun q hq => ?_, fun _ => List.not_mem_nil, fun _ => Option.some_ne_none _⟩
        cases hq
        exact ⟨Nat.le_refl _, by dsimp only; omega⟩
    next =>
      refine ⟨hproper, fun hb hm => ?_, fun h => absurd h (List.cons_ne_nil _ _)⟩
      rcases List.mem_cons.1 hm with hm | hm
      · exact replacement_ne_newline hm.symm
      · exact hnewline (hten hb) hm

/-- A newline byte ends the character under way and is a newline. -/
theorem step_newline (hs : Proper s) : step s 10 = (finish s ++ ['\n'], none) := by
  cases s with
  | none => rfl
  | some p =>
    have hlow := (hs p rfl).low
    have hstays : ¬ (p.low ≤ (10 : UInt8).toNat ∧ (10 : UInt8).toNat ≤ p.high) := fun h => by
      have := h.1
      change p.low ≤ 10 at this
      omega
    unfold step
    dsimp only
    rw [if_neg hstays]
    rfl

end

/-! ### Texts cut at newlines -/

section

variable {s : State} {bs : List UInt8}

/-- What precedes a newline byte is read apart from what follows it. -/
theorem decodeFrom_newline (hs : Proper s) (as bs : List UInt8) :
    decodeFrom s (as ++ 10 :: bs) = decodeFrom s as ++ '\n' :: decodeFrom none bs := by
  induction as generalizing s with
  | nil => rw [List.nil_append, decodeFrom_cons, step_newline hs, List.append_assoc]; rfl
  | cons a as ih =>
    rw [List.cons_append, decodeFrom_cons, decodeFrom_cons, ih (step_facts hs a).1,
      List.append_assoc]

/-- No newline is read from other bytes. -/
theorem newline_notMem_decodeFrom (hs : Proper s) (h : 10 ∉ bs) : '\n' ∉ decodeFrom s bs := by
  induction bs generalizing s with
  | nil =>
    cases s with
    | none => exact List.not_mem_nil
    | some p => exact fun hm => replacement_ne_newline (List.mem_singleton.1 hm).symm
  | cons b bs ih =>
    rw [List.mem_cons, not_or] at h
    obtain ⟨hproper, hnewline, -⟩ := step_facts hs b
    rw [decodeFrom_cons, List.mem_append, not_or]
    exact ⟨hnewline (Ne.symm h.1), ih hproper h.2⟩

/-- Bytes do not vanish, and neither does a character under way. -/
theorem decodeFrom_eq_nil_iff (hs : Proper s) : decodeFrom s bs = [] ↔ s = none ∧ bs = [] := by
  constructor
  · intro h
    induction bs generalizing s with
    | nil =>
      cases s with
      | none => exact ⟨rfl, rfl⟩
      | some p => cases h
    | cons b bs ih =>
      obtain ⟨hproper, -, hstays⟩ := step_facts hs b
      rw [decodeFrom_cons, List.append_eq_nil_iff] at h
      exact absurd (ih hproper h.2).1 (hstays h.1)
  · rintro ⟨rfl, rfl⟩
    rfl

end

end Text.Utf8

/-! ### Lines -/

namespace Output

open FunctionHost.Text

/-- The line that a piece of text is. -/
def ofPiece (cs : List Char) : String := String.ofList (dropEndWhile isLineEnd cs)

/-- Cutting loses nothing. -/
theorem joined_cut (bs : List UInt8) : joined (cut bs).1 ++ (cut bs).2 = bs := by
  induction bs with
  | nil => rfl
  | cons b bs ih =>
    by_cases hb : b = newline
    · rw [hb, cut_newline, joined_cons, List.nil_append, List.append_assoc, ih]
      rfl
    · rw [cut_cons hb]
      cases hls : (cut bs).1 with
      | nil =>
        rw [hls] at ih
        exact congrArg (b :: ·) ih
      | cons l ls =>
        rw [hls] at ih
        exact congrArg (b :: ·) ih

/-- No line has a newline in it. -/
theorem newline_notMem_of_mem_cut {bs l : List UInt8} (h : l ∈ (cut bs).1) : newline ∉ l := by
  induction bs generalizing l with
  | nil => cases h
  | cons b bs ih =>
    by_cases hb : b = newline
    · rw [hb, cut_newline] at h
      rcases List.mem_cons.1 h with rfl | h
      · exact List.not_mem_nil
      · exact ih h
    · rw [cut_cons hb] at h
      cases hls : (cut bs).1 with
      | nil =>
        rw [hls] at h
        cases h
      | cons m ls =>
        rw [hls] at h ih
        rcases List.mem_cons.1 h with rfl | h
        · rw [List.mem_cons, not_or]
          exact ⟨Ne.symm hb, ih List.mem_cons_self⟩
        · exact ih (List.mem_cons_of_mem _ h)

/-- The pieces of an output are its lines, each with its newline, and the bytes after the last. -/
theorem pieces_newline (bs : List UInt8) : pieces newline bs =
    (cut bs).1.map (· ++ [newline]) ++ pieces newline (cut bs).2 := by
  conv => lhs; rw [← joined_cut bs]
  exact pieces_flatMap (fun l hl => newline_notMem_of_mem_cut hl) _

theorem decodeLossy_joined (ls : List (List UInt8)) (r : List UInt8) :
    Utf8.decodeLossy (joined ls ++ r) =
      (ls.map Utf8.decodeLossy).flatMap (· ++ ['\n']) ++ Utf8.decodeLossy r := by
  induction ls with
  | nil => rfl
  | cons l ls ih =>
    rw [joined_cons, List.append_assoc, List.append_assoc]
    refine (Utf8.decodeFrom_newline Utf8.proper_none l (joined ls ++ r)).trans ?_
    rw [List.map_cons, List.flatMap_cons, List.append_assoc, List.append_assoc, ← ih]
    rfl

theorem decodeLossy_line (l : List UInt8) :
    Utf8.decodeLossy (l ++ [newline]) = Utf8.decodeLossy l ++ ['\n'] :=
  Utf8.decodeFrom_newline Utf8.proper_none l []

/-- Reading commutes with cutting: bytes cut at newlines are read piece by piece as the text that is
read of all of them is cut. -/
theorem pieces_decodeLossy (bs : List UInt8) :
    pieces '\n' (Utf8.decodeLossy bs) = (pieces newline bs).map Utf8.decodeLossy := by
  have hlines : ∀ cs ∈ (cut bs).1.map Utf8.decodeLossy, '\n' ∉ cs := by
    intro cs hcs
    obtain ⟨l, hl, rfl⟩ := List.mem_map.1 hcs
    exact Utf8.newline_notMem_decodeFrom Utf8.proper_none (newline_notMem_of_mem_cut hl)
  have hrest : pieces '\n' (Utf8.decodeLossy (cut bs).2) =
      (pieces newline (cut bs).2).map Utf8.decodeLossy := by
    by_cases hr : (cut bs).2 = []
    · rw [hr]
      rfl
    · rw [pieces_of_notMem (newline_notMem_cut bs) hr]
      refine pieces_of_notMem ?_ fun h => hr ((Utf8.decodeFrom_eq_nil_iff Utf8.proper_none).1 h).2
      exact Utf8.newline_notMem_decodeFrom Utf8.proper_none (newline_notMem_cut bs)
  rw [pieces_newline bs, List.map_append, ← hrest]
  conv => lhs; rw [← joined_cut bs, decodeLossy_joined]
  rw [pieces_flatMap hlines, List.map_map, List.map_map]
  congr 1
  exact List.map_congr_left fun l _ => (decodeLossy_line l).symm

/-- The newline of a line does not show. -/
theorem lineText_concat (l : List UInt8) : lineText (l ++ [newline]) = lineText l := by
  rw [lineText, decodeLossy_line, dropEndWhile_concat rfl, lineText]

/-- The lines of an output that has ended are its pieces, each read and without its line ends; and
they are the pieces of the text that the whole output is read as. -/
theorem linesOf_eq_pieces (bs : List UInt8) :
    linesOf true bs = (pieces newline bs).map (ofPiece ∘ Utf8.decodeLossy) ∧
      linesOf true bs = (pieces '\n' (Utf8.decodeLossy bs)).map ofPiece := by
  have hpieces : linesOf true bs = (pieces newline bs).map lineText := by
    have hlast : last (cut bs).2 = (pieces newline (cut bs).2).map lineText := by
      by_cases hr : (cut bs).2 = []
      · rw [hr]
        rfl
      · rw [pieces_of_notMem (newline_notMem_cut bs) hr, last, if_neg (by simpa using hr)]
        rfl
    rw [linesOf_true, hlast, pieces_newline bs, List.map_append, List.map_map, linesOf,
      if_neg Bool.false_ne_true, List.append_nil]
    congr 1
    exact List.map_congr_left fun l _ => (lineText_concat l).symm
  refine ⟨hpieces, ?_⟩
  rw [pieces_decodeLossy, List.map_map]
  exact hpieces

end Output

end FunctionHost
