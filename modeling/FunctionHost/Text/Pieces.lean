/-!
# Pieces of a text

A leading or a closing part taken off, a text cut at a character, and one text inside another.
-/

namespace FunctionHost.Text

/-- What follows the leading part `lead`, if the text starts with it. -/
def after? (lead s : List Char) : Option (List Char) :=
  match lead, s with
  | [], s => some s
  | _ :: _, [] => none
  | a :: lead, c :: s => if a = c then after? lead s else none

/-- What precedes the closing part `close`, if the text ends with it. -/
def before? (close s : List Char) : Option (List Char) :=
  (after? close.reverse s.reverse).map List.reverse

/-- Whether `part` stands somewhere in the text. -/
def contains (part : List Char) : List Char → Bool
  | [] => part.isEmpty
  | c :: s => (after? part (c :: s)).isSome || contains part s

/-- The parts before and after the first `c`. -/
def cutAt? (c : Char) : List Char → Option (List Char × List Char)
  | [] => none
  | a :: s => if a = c then some ([], s) else (cutAt? c s).map fun (l, r) => (a :: l, r)

/-- The parts between the occurrences of `c`, one more than there are of them. -/
def cutAll (c : Char) : List Char → List (List Char)
  | [] => [[]]
  | a :: s =>
    match cutAll c s with
    | [] => [[]]
    | p :: ps => if a = c then [] :: p :: ps else (a :: p) :: ps

theorem after?_eq_some_iff {lead s r : List Char} : after? lead s = some r ↔ s = lead ++ r := by
  induction lead generalizing s with
  | nil => simp [after?, eq_comm]
  | cons a lead ih =>
    cases s with
    | nil => simp [after?]
    | cons c s =>
      by_cases h : a = c
      · subst h; simp [after?, ih]
      · simp [after?, h, Ne.symm h]

theorem contains_iff {part s : List Char} : contains part s = true ↔ part <:+: s := by
  induction s with
  | nil => simp [contains]
  | cons c s ih =>
    rw [contains, Bool.or_eq_true, ih, List.infix_cons_iff, Option.isSome_iff_exists]
    refine or_congr_left ⟨fun ⟨r, h⟩ => ⟨r, (after?_eq_some_iff.1 h).symm⟩, fun ⟨r, h⟩ => ⟨r, ?_⟩⟩
    exact after?_eq_some_iff.2 h.symm

end FunctionHost.Text
