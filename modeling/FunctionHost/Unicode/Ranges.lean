import FunctionHost.Text.Digits
import FunctionHost.Text.Pieces
/-!
# Sets of code points

A set of code points is a list of ranges, ascending and apart from one another. Sets are written as
rows of words: `41-5A` is a range, `AA` a single code point, and `100-12E/2` every second code point
from the first to the last.
-/

namespace FunctionHost.Unicode

open FunctionHost.Text

/-- The last code point. -/
def lastPoint : Nat := 0x10FFFF

/-- A set of code points, by the first and the last of each range. -/
structure Ranges where
  /-- The ranges, ascending and apart. -/
  list : List (Nat × Nat)
deriving DecidableEq, Repr, Inhabited

namespace Ranges

/-- Joins ranges that overlap or touch; they ascend by first members, and `r` is the first. -/
def joinedFrom (r : Nat × Nat) : List (Nat × Nat) → List (Nat × Nat)
  | [] => [r]
  | s :: ss => if s.1 ≤ r.2 + 1 then joinedFrom (r.1, max r.2 s.2) ss else r :: joinedFrom s ss

/-- Joins ranges that overlap or touch; they ascend by first members. -/
def joined : List (Nat × Nat) → List (Nat × Nat)
  | [] => []
  | r :: rs => joinedFrom r rs

/-- The set of all members of ranges in any order. -/
def ofList (rs : List (Nat × Nat)) : Ranges := ⟨joined (rs.mergeSort fun a b => a.1 ≤ b.1)⟩

/-- The set of one code point. -/
def single (n : Nat) : Ranges := ⟨[(n, n)]⟩

/-- The set without members. -/
def empty : Ranges := ⟨[]⟩

/-- A code point is a member. -/
def contains (r : Ranges) (n : Nat) : Bool := r.list.any fun (a, b) => a ≤ n && n ≤ b

/-- The set has no members. -/
def isEmpty (r : Ranges) : Bool := r.list.isEmpty

/-- All members are ASCII. -/
def isAscii (r : Ranges) : Bool := r.list.all fun (_, b) => b < 128

/-- The members of either set. -/
def union (r s : Ranges) : Ranges := ofList (r.list ++ s.list)

/-- The members of any of the sets. -/
def unions (rs : List Ranges) : Ranges := ofList (rs.flatMap list)

/-- The ranges between ranges, beginning at `start`. -/
def gaps (start : Nat) : List (Nat × Nat) → List (Nat × Nat)
  | [] => if start ≤ lastPoint then [(start, lastPoint)] else []
  | (a, b) :: rs => if start < a then (start, a - 1) :: gaps (b + 1) rs else gaps (b + 1) rs

/-- The code points that are no members. -/
def complement (r : Ranges) : Ranges := ⟨gaps 0 r.list⟩

/-- What two ascending lists of ranges have in common. -/
def common : List (Nat × Nat) → List (Nat × Nat) → List (Nat × Nat)
  | [], _ => []
  | _ :: _, [] => []
  | (a, b) :: rs, (c, d) :: ss =>
    let rest := if b < d then common rs ((c, d) :: ss) else common ((a, b) :: rs) ss
    if max a c ≤ min b d then (max a c, min b d) :: rest else rest
termination_by rs ss => rs.length + ss.length

/-- The members of both sets. -/
def inter (r s : Ranges) : Ranges := ⟨common r.list s.list⟩

/-- The members of the first set that are not in the second. -/
def diff (r s : Ranges) : Ranges := r.inter s.complement

/-- The members of exactly one of the sets. -/
def symmDiff (r s : Ranges) : Ranges := (r.union s).diff (r.inter s)

/-! ### Written sets -/

/-- A number in base sixteen. -/
def hexNumber (s : List Char) : Nat :=
  s.foldl (fun n c => n * 16 + (digitValue? 16 c).getD 0) 0

/-- The ranges of a word. -/
def ofWord (w : List Char) : List (Nat × Nat) :=
  match cutAt? '-' w with
  | none => if w.isEmpty then [] else [(hexNumber w, hexNumber w)]
  | some (a, rest) =>
    let a := hexNumber a
    match cutAt? '/' rest with
    | none => [(a, hexNumber rest)]
    | some (b, step) =>
      let step := max 1 (hexNumber step)
      (List.range ((hexNumber b - a) / step + 1)).map fun i => (a + i * step, a + i * step)

/-- The set written in rows. -/
def ofRows (rows : List String) : Ranges :=
  ofList (rows.flatMap fun row => (cutAll ' ' row.toList).flatMap ofWord)

end Ranges

/-- A name as it is looked up: in lower case, without blanks, low lines and hyphens, and without
`is` in front. Only ASCII counts. -/
def plainName (s : String) : String :=
  let drop := fun (cs : List Char) => (cs.filter fun c =>
    c.toNat < 128 && c != ' ' && c != '_' && c != '-').map Char.toLower
  match s.toList with
  | a :: b :: cs =>
    if (a = 'i' ∨ a = 'I') ∧ (b = 's' ∨ b = 'S') then
      let rest := drop cs
      String.ofList (if rest = ['c'] then ['i', 's', 'c'] else rest)
    else String.ofList (drop (a :: b :: cs))
  | cs => String.ofList (drop cs)

/-- What stands under a name in a list with several names for each entry. -/
def named? {α : Type} (name : String) : List (List String × α) → Option α
  | [] => none
  | (names, a) :: rest => if names.contains name then some a else named? name rest

end FunctionHost.Unicode
