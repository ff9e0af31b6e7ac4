import FunctionHost.Unicode.Ranges
/-!
# Characters as bytes

A set of characters as sequences of byte ranges: a character belongs to the set if and only if its
bytes in UTF-8 lie, one after another, in the ranges of one of the sequences. The sequences ascend.
-/

namespace FunctionHost.Pattern

open FunctionHost.Unicode

/-- A range of bytes, by its first and its last member. -/
abbrev ByteRange := Nat × Nat

/-- Cuts the numbers from `lo` to `hi`, written with `more` further digits of base 64, into
sequences of digit ranges. -/
def cutRange (more lo hi : Nat) : List (List ByteRange) :=
  match more with
  | 0 => [[(lo, hi)]]
  | more + 1 =>
    let unit := 64 ^ (more + 1)
    let (p, q) := (lo / unit, hi / unit)
    if p = q then (cutRange more (lo % unit) (hi % unit)).map ((p, p) :: ·)
    else
      let full := List.replicate (more + 1) (0, 63)
      let left := if lo % unit = 0 then []
        else (cutRange more (lo % unit) (unit - 1)).map ((p, p) :: ·)
      let right := if hi % unit = unit - 1 then []
        else (cutRange more 0 (hi % unit)).map ((q, q) :: ·)
      let first := if lo % unit = 0 then p else p + 1
      let last := if hi % unit = unit - 1 then q + 1 else q
      left ++ (if first < last then [(first, last - 1) :: full] else []) ++ right

/-- The characters whose bytes have one shape: the number of bytes after the first, what is added to
the first digit, and the first and the last of the characters. -/
structure ByteShape where
  /-- The number of bytes after the first. -/
  more : Nat
  /-- The first byte for the digit zero. -/
  lead : Nat
  /-- The first character. -/
  low : Nat
  /-- The last character. -/
  high : Nat

/-- The shapes in UTF-8. There are no characters between the third and the fourth. -/
def byteShapes : List ByteShape := [
  ⟨0, 0, 0, 0x7F⟩, ⟨1, 0xC0, 0x80, 0x7FF⟩, ⟨2, 0xE0, 0x800, 0xD7FF⟩, ⟨2, 0xE0, 0xE000, 0xFFFF⟩,
  ⟨3, 0xF0, 0x10000, 0x10FFFF⟩]

/-- A range of digits as a range of bytes. -/
def ByteRange.above (base : Nat) (r : ByteRange) : ByteRange := (base + r.1, base + r.2)

/-- A sequence of digit ranges as byte ranges. -/
def ByteShape.sequence (s : ByteShape) : List ByteRange → List ByteRange
  | [] => []
  | r :: rest => ByteRange.above s.lead r :: rest.map (ByteRange.above 0x80)

/-- The sequences for the characters of one shape in a range. -/
def ByteShape.sequences (s : ByteShape) (lo hi : Nat) : List (List ByteRange) :=
  if max lo s.low ≤ min hi s.high then
    (cutRange s.more (max lo s.low) (min hi s.high)).map s.sequence
  else []

/-- The sequences for a set of characters. -/
def byteSequences (r : Ranges) : List (List ByteRange) :=
  r.list.flatMap fun (lo, hi) => byteShapes.flatMap fun s => s.sequences lo hi

/-- Groups neighbouring sequences by their first ranges. -/
def groupByFirst : List (List ByteRange) → List (ByteRange × List (List ByteRange))
  | [] => []
  | [] :: ss => groupByFirst ss
  | (r :: rest) :: ss =>
    match groupByFirst ss with
    | [] => [(r, [rest])]
    | (q, rests) :: groups =>
      if q = r then (r, rest :: rests) :: groups else (r, [rest]) :: (q, rests) :: groups

end FunctionHost.Pattern
