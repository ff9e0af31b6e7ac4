/-!
# Request bodies

A body is received in frames and thrown away; only its size counts. It may announce its length; it
never has more bytes than it announces. Main statement: `tooLarge_iff`, a body is too large exactly
if it has more bytes than the limit, however it is cut into frames.
-/

namespace FunctionHost

/-- The number of bytes in frames. -/
def bytesIn (frames : List (List UInt8)) : Nat := (frames.map List.length).foldr Nat.add 0

/-- A request body. -/
structure Body where
  /-- The announced length. -/
  announced : Option Nat := none
  /-- The frames received, in order. -/
  frames : List (List UInt8) := []
  /-- What is received is no more than what is announced. -/
  bytesIn_le : ∀ n ∈ announced, bytesIn frames ≤ n := by simp

namespace Body

/-- The number of bytes: as announced, else as received. -/
def size (b : Body) : Nat := b.announced.getD (bytesIn b.frames)

/-- Takes frames as long as they fit into what is left of the limit. -/
def fits (left : Nat) : List (List UInt8) → Bool
  | [] => true
  | f :: fs => f.length ≤ left && fits (left - f.length) fs

/-- The body is refused: by the length it announces, or by the first frame that does not fit. -/
def tooLarge (limit : Nat) (b : Body) : Bool :=
  decide (limit < b.announced.getD 0) || !fits limit b.frames

theorem fits_iff {left : Nat} {fs : List (List UInt8)} :
    fits left fs = true ↔ bytesIn fs ≤ left := by
  induction fs generalizing left with
  | nil => simp [fits, bytesIn]
  | cons f fs ih =>
    simp only [fits, Bool.and_eq_true, decide_eq_true_eq, ih, bytesIn, List.map_cons, List.foldr_cons,
      Nat.add_eq]
    omega

/-- A body is too large exactly if it has more bytes than the limit. -/
theorem tooLarge_iff {limit : Nat} {b : Body} : b.tooLarge limit = true ↔ limit < b.size := by
  obtain ⟨announced, frames, h⟩ := b
  have hf : fits limit frames = false ↔ limit < bytesIn frames := by
    rw [← Bool.not_eq_true, fits_iff]; omega
  cases announced with
  | none => simp [tooLarge, size, hf]
  | some n =>
    have := h n rfl
    simp only [tooLarge, size, Option.getD_some, Bool.or_eq_true, decide_eq_true_eq,
      Bool.not_eq_true', hf]
    omega

end Body

end FunctionHost
