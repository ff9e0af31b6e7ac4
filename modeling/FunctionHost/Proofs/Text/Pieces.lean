import FunctionHost.Text.Pieces
/-!
# Pieces of a text, put together again

A text that is put together of parts with a separator between them is cut into these parts, as long
as no part has the separator in it (`cutAll_flatMap`, `cutAt?_append`).
-/

namespace FunctionHost.Text

variable {c : Char}

theorem cutAll_ne_nil (c : Char) (s : List Char) : cutAll c s ≠ [] := by
  cases s with
  | nil => exact List.cons_ne_nil _ _
  | cons a s =>
    rw [cutAll]
    split
    next => exact List.cons_ne_nil _ _
    next => split <;> exact List.cons_ne_nil _ _

theorem cutAll_cons_self (c : Char) (s : List Char) : cutAll c (c :: s) = [] :: cutAll c s := by
  rw [cutAll]
  cases h : cutAll c s with
  | nil => exact absurd h (cutAll_ne_nil c s)
  | cons p ps => exact if_pos rfl

/-- The parts before a separator and those after it. -/
theorem cutAll_append (a b : List Char) : cutAll c (a ++ c :: b) = cutAll c a ++ cutAll c b := by
  induction a with
  | nil => exact cutAll_cons_self c b
  | cons x a ih =>
    rw [List.cons_append, cutAll, cutAll, ih]
    cases h : cutAll c a with
    | nil => exact absurd h (cutAll_ne_nil c a)
    | cons p ps => by_cases hx : x = c <;> simp [hx]

theorem cutAll_of_notMem {s : List Char} (h : c ∉ s) : cutAll c s = [s] := by
  induction s with
  | nil => rfl
  | cons a s ih =>
    rw [List.mem_cons, not_or] at h
    rw [cutAll, ih h.2]
    exact if_neg (Ne.symm h.1)

/-- Lines that a text ends with. -/
theorem cutAll_flatMap {ls : List (List Char)} (h : ∀ l ∈ ls, c ∉ l) :
    cutAll c (ls.flatMap (· ++ [c])) = ls ++ [[]] := by
  induction ls with
  | nil => rfl
  | cons l ls ih =>
    rw [List.forall_mem_cons] at h
    rw [List.flatMap_cons, List.append_assoc, List.singleton_append, cutAll_append,
      cutAll_of_notMem h.1, ih h.2, List.singleton_append, List.cons_append]

/-- A text is cut where its first part ends. -/
theorem cutAt?_append {l : List Char} (h : c ∉ l) (s : List Char) :
    cutAt? c (l ++ c :: s) = some (l, s) := by
  induction l with
  | nil => exact if_pos rfl
  | cons a l ih =>
    rw [List.mem_cons, not_or] at h
    rw [List.cons_append, cutAt?, if_neg (Ne.symm h.1), ih h.2, Option.map_some]

/-- What stands before a closing part. -/
theorem before?_append (close s : List Char) : before? close (s ++ close) = some s := by
  rw [before?, List.reverse_append, after?_eq_some_iff.2 rfl, Option.map_some, List.reverse_reverse]

theorem before?_eq_some_iff {close s r : List Char} :
    before? close s = some r ↔ s = r ++ close := by
  constructor
  · intro h
    obtain ⟨r', hr', rfl⟩ := Option.map_eq_some_iff.1 h
    rw [← List.reverse_reverse s, after?_eq_some_iff.1 hr', List.reverse_append,
      List.reverse_reverse]
  · rintro rfl
    exact before?_append close r

end FunctionHost.Text
