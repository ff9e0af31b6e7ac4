import FunctionHost.Text.Blank
import Mathlib.Data.List.TakeWhile
/-!
# What is dropped from a text

What `dropEndWhile` drops satisfies its condition (`exists_dropEndWhile_append`), and it drops
nothing from a text whose last character does not (`dropEndWhile_of_getLast?`): these two facts say
which text is left (`dropEndWhile_eq_iff`). So `trim` takes away the blanks put at either end of a
text (`trim_append`, `trim_append_left`) and leaves a text with none there as it is
(`trim_of_ends`).
-/

namespace FunctionHost.Text

variable {f : Char → Bool} {r s t : List Char}

theorem exists_dropEndWhile_append (f : Char → Bool) (s : List Char) :
    ∃ t, s = dropEndWhile f s ++ t ∧ ∀ z ∈ t, f z = true := by
  refine ⟨(s.reverse.takeWhile f).reverse, ?_, fun z hz => ?_⟩
  · rw [dropEndWhile, ← List.reverse_append, List.takeWhile_append_dropWhile, List.reverse_reverse]
  · exact List.mem_takeWhile_imp (List.mem_reverse.1 hz)

theorem dropEndWhile_of_getLast? (h : ∀ z ∈ s.getLast?, f z = false) : dropEndWhile f s = s := by
  unfold dropEndWhile
  cases hs : s.reverse with
  | nil => rw [List.dropWhile_nil, ← hs, List.reverse_reverse]
  | cons z t =>
    have hz : f z = false := h z (by rw [← List.head?_reverse, hs]; rfl)
    rw [List.dropWhile_cons_of_neg (by simp [hz]), ← hs, List.reverse_reverse]

theorem dropEndWhile_concat {z : Char} (hz : f z = true) :
    dropEndWhile f (s ++ [z]) = dropEndWhile f s := by
  rw [dropEndWhile, List.reverse_concat, List.dropWhile_cons_of_pos hz, dropEndWhile]

theorem dropEndWhile_of_forall (h : ∀ z ∈ s, f z = false) : dropEndWhile f s = s :=
  dropEndWhile_of_getLast? fun z hz => h z (List.mem_of_getLast? hz)

theorem dropEndWhile_append (h : ∀ z ∈ t, f z = true) :
    dropEndWhile f (s ++ t) = dropEndWhile f s := by
  have ht : t.reverse.dropWhile f = [] := by
    rw [List.dropWhile_eq_nil_iff]
    exact fun z hz => h z (List.mem_reverse.1 hz)
  rw [dropEndWhile, List.reverse_append, List.dropWhile_append, ht]
  rfl

/-- What is left when everything at the end that satisfies the condition is dropped. -/
theorem dropEndWhile_eq_iff : dropEndWhile f s = r ↔
    (∃ t, s = r ++ t ∧ ∀ z ∈ t, f z = true) ∧ ∀ z ∈ r.getLast?, f z = false := by
  constructor
  · rintro rfl
    refine ⟨exists_dropEndWhile_append f s, fun z hz => ?_⟩
    have hfirst := List.head?_dropWhile_not f s.reverse
    rw [dropEndWhile, List.getLast?_reverse] at hz
    rwa [Option.mem_def.1 hz] at hfirst
  · rintro ⟨⟨t, rfl, ht⟩, hr⟩
    rw [dropEndWhile_append ht, dropEndWhile_of_getLast? hr]

/-- What is left when everything at the start that satisfies the condition is dropped. -/
theorem dropWhile_eq_iff : s.dropWhile f = r ↔
    (∃ t, s = t ++ r ∧ ∀ z ∈ t, f z = true) ∧ ∀ z ∈ r.head?, f z = false := by
  constructor
  · rintro rfl
    refine ⟨⟨s.takeWhile f, List.takeWhile_append_dropWhile.symm, fun z hz =>
      List.mem_takeWhile_imp hz⟩, fun z hz => ?_⟩
    have hfirst := List.head?_dropWhile_not f s
    rwa [Option.mem_def.1 hz] at hfirst
  · rintro ⟨⟨t, rfl, ht⟩, hr⟩
    rw [List.dropWhile_append, List.dropWhile_eq_nil_iff.2 ht]
    cases r with
    | nil => rfl
    | cons z r => exact List.dropWhile_cons_of_neg (by simp [hr z rfl])

/-- Nothing is dropped beyond a character that stays. -/
theorem dropWhile_append_cons {z : Char} (hz : f z = false) (s t : List Char) :
    (s ++ z :: t).dropWhile f = s.dropWhile f ++ z :: t := by
  rw [List.dropWhile_append, List.dropWhile_cons_of_neg (by simp [hz])]
  split_ifs with hs
  · rw [List.isEmpty_iff.1 hs, List.nil_append]
  · rfl

theorem dropEndWhile_append_cons {z : Char} (hz : f z = false) (s t : List Char) :
    dropEndWhile f (s ++ z :: t) = s ++ z :: dropEndWhile f t := by
  have hreverse : (s ++ z :: t).reverse = t.reverse ++ z :: s.reverse := by simp
  rw [dropEndWhile, hreverse, dropWhile_append_cons hz]
  simp [dropEndWhile]

/-! ### Blanks at the ends -/

/-- A text without blanks at its ends is left as it is. -/
theorem trim_of_ends (hstart : ∀ z ∈ s.head?, isBlank z = false)
    (hend : ∀ z ∈ s.getLast?, isBlank z = false) : trim s = s := by
  have hdrop : s.dropWhile isBlank = s := by
    cases s with
    | nil => rfl
    | cons z s => exact List.dropWhile_cons_of_neg (by simp [hstart z rfl])
  rw [trim, hdrop, trimEnd, dropEndWhile_of_getLast? hend]

/-- A text without blanks has none at its ends. -/
theorem trim_of_forall (h : ∀ z ∈ s, isBlank z = false) : trim s = s :=
  trim_of_ends (fun z hz => h z (List.mem_of_head? hz)) fun z hz => h z (List.mem_of_getLast? hz)

theorem trim_append (h : ∀ z ∈ t, isBlank z = true) : trim (s ++ t) = trim s := by
  rw [trim, List.dropWhile_append]
  split_ifs with hs
  · rw [List.dropWhile_eq_nil_iff.2 h, trim, List.isEmpty_iff.1 hs]
  · exact dropEndWhile_append h

theorem trim_append_left (h : ∀ z ∈ t, isBlank z = true) : trim (t ++ s) = trim s := by
  rw [trim, List.dropWhile_append, List.dropWhile_eq_nil_iff.2 h]
  rfl

theorem trim_of_blank (h : ∀ z ∈ t, isBlank z = true) : trim t = [] := by
  have htrim := trim_append (s := []) h
  exact htrim

theorem trim_trimEnd (s : List Char) : trim (trimEnd s) = trim s := by
  obtain ⟨t, hs, hblank⟩ := exists_dropEndWhile_append isBlank s
  have htrim := trim_append (s := trimEnd s) hblank
  rw [trimEnd, ← hs] at htrim
  exact htrim.symm

theorem trim_dropWhile (s : List Char) : trim (s.dropWhile isBlank) = trim s := by
  have htrim := trim_append_left (s := s.dropWhile isBlank)
    fun z (hz : z ∈ s.takeWhile isBlank) => List.mem_takeWhile_imp hz
  rw [List.takeWhile_append_dropWhile] at htrim
  exact htrim.symm

/-- A text is trimmed on each side of a character that is no blank. -/
theorem trim_append_cons {z : Char} (hz : isBlank z = false) (s t : List Char) :
    trim (s ++ z :: t) = s.dropWhile isBlank ++ z :: trimEnd t := by
  rw [trim, dropWhile_append_cons hz]
  exact dropEndWhile_append_cons hz _ t

end FunctionHost.Text
