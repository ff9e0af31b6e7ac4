import FunctionHost.Config.Function
import FunctionHost.Proofs.Text.Pieces
import Mathlib.Tactic.SplitIfs
/-!
# Spellings of a path

The path of a source file is its parts with slashes or backslashes between them (`Joined`). There
may be a `./` in front, once or more often, and a `.py` at the end (`Spelled`). As no part has a dot
in it, what is in front and at the end can be told from the parts.

Main statement: `names_module`, however a path is spelled, its module is the parts with dots between
them.
-/

namespace FunctionHost

open FunctionHost.Text

/-- A part of a path that is not empty and has no dot and no separator in it. -/
structure IsPart (p : String) : Prop where
  /-- It is not empty. -/
  ne_empty : p ≠ ""
  /-- It has no dot in it. -/
  no_dot : '.' ∉ p.toList
  /-- It has no separator in it. -/
  no_separator : '/' ∉ p.toList ∧ '\\' ∉ p.toList

/-- Parts with a separator between neighbours. -/
inductive Joined : List String → List Char → Prop where
  /-- One part. -/
  | one {p : String} : IsPart p → Joined [p] p.toList
  /-- A part and a separator in front of others. -/
  | more {p : String} {c : Char} {ps : List String} {s : List Char} : IsPart p →
      c = '/' ∨ c = '\\' → Joined ps s → Joined (p :: ps) (p.toList ++ c :: s)

/-- A way in which the path of a source file is written. -/
inductive Spelled (ps : List String) : List Char → Prop where
  /-- As it is. -/
  | bare {s : List Char} : Joined ps s → Spelled ps s
  /-- With the ending of a source file. -/
  | ending {s : List Char} : Joined ps s → Spelled ps (s ++ ".py".toList)
  /-- With `./` in front. -/
  | here {s : List Char} : Spelled ps s → Spelled ps ('.' :: '/' :: s)

/-- Any parts can be joined. -/
theorem exists_joined {ps : List String} (hne : ps ≠ []) (h : ∀ p ∈ ps, IsPart p) :
    ∃ s, Joined ps s := by
  induction ps with
  | nil => exact absurd rfl hne
  | cons p ps ih =>
    rw [List.forall_mem_cons] at h
    cases ps with
    | nil => exact ⟨_, .one h.1⟩
    | cons q ps =>
      obtain ⟨s, hs⟩ := ih (List.cons_ne_nil q ps) h.2
      exact ⟨_, .more h.1 (.inl rfl) hs⟩

section

variable {p : String} {ps : List String} {s : List Char}

theorem dropHere_of_head? (h : s.head? ≠ some '.') : dropHere s = s := by
  unfold dropHere
  split
  next => exact absurd rfl h
  next => rfl

theorem IsPart.toList_ne_nil (h : IsPart p) : p.toList ≠ [] := by
  rw [Ne, String.toList_eq_nil_iff]
  exact h.ne_empty

theorem Joined.ne_nil (h : Joined ps s) : s ≠ [] := by
  cases h with
  | one hp => exact hp.toList_ne_nil
  | more hp _ _ => exact List.append_ne_nil_of_left_ne_nil hp.toList_ne_nil _

theorem Joined.no_dot (h : Joined ps s) : '.' ∉ s := by
  induction h with
  | one hp => exact hp.no_dot
  | more hp hc _ ih =>
    rw [List.mem_append, List.mem_cons, not_or, not_or]
    refine ⟨hp.no_dot, ?_, ih⟩
    rintro rfl
    rcases hc with h | h <;> cases h

/-- What is joined does not start with a dot, whatever follows it. -/
theorem Joined.head?_append (h : Joined ps s) (t : List Char) : (s ++ t).head? ≠ some '.' := by
  obtain ⟨c, cs, rfl⟩ := List.exists_cons_of_ne_nil h.ne_nil
  intro hdot
  rw [List.cons_append, List.head?_cons, Option.some.injEq] at hdot
  exact h.no_dot (hdot ▸ List.mem_cons_self)

/-- What is in front and at the end is taken away. -/
theorem Spelled.stem (h : Spelled ps s) :
    Joined ps ((before? ".py".toList (dropHere s)).getD (dropHere s)) := by
  induction h with
  | @bare s hs =>
    -- an ending would have a dot in it, which is in none of the parts and is no separator
    have hnone : before? ".py".toList s = none := by
      refine Option.eq_none_iff_forall_ne_some.2 fun r hr => hs.no_dot ?_
      rw [before?_eq_some_iff.1 hr]
      exact List.mem_append_right _ (by decide)
    have hstart := hs.head?_append []
    rw [List.append_nil] at hstart
    rw [dropHere_of_head? hstart, hnone]
    exact hs
  | ending hs =>
    rw [dropHere_of_head? (hs.head?_append _), before?_append]
    exact hs
  | here _ ih => exact ih

/-! ### Dots for separators -/

/-- A dot for a separator, and any other character as it is. -/
def dotted (c : Char) : Char := if c = '/' ∨ c = '\\' then '.' else c

theorem moduleName_eq (path : String) : moduleName path = String.ofList
    (((before? ".py".toList (dropHere path.toList)).getD (dropHere path.toList)).map dotted) := rfl

theorem dotted_ne_separator (c : Char) : dotted c ≠ '/' ∧ dotted c ≠ '\\' := by
  unfold dotted
  split_ifs with h
  · decide
  · exact not_or.1 h

theorem IsPart.map_dotted (h : IsPart p) : p.toList.map dotted = p.toList := by
  refine (List.map_congr_left fun c hc => ?_).trans (List.map_id _)
  refine if_neg (not_or.2 ⟨?_, ?_⟩)
  · rintro rfl
    exact h.no_separator.1 hc
  · rintro rfl
    exact h.no_separator.2 hc

/-- Parts that are joined become the parts with dots between them. -/
theorem Joined.map_dotted (h : Joined ps s) :
    s.map dotted = ['.'].intercalate (ps.map String.toList) := by
  induction h with
  | one hp => rw [hp.map_dotted, List.map_singleton, List.intercalate_singleton]
  | @more p c ps s hp hc hs ih =>
    have hdot : dotted c = '.' := if_pos hc
    rw [List.map_append, List.map_cons, hp.map_dotted, hdot, ih]
    cases hs with
    | one _ => rfl
    | more _ _ _ => simp [List.intercalate_cons_cons]

/-- The module of a path is its parts with dots between them. -/
theorem Spelled.moduleName_eq_intercalate {path : String} (h : Spelled ps path.toList) :
    moduleName path = ".".intercalate ps := by
  rw [moduleName_eq, h.stem.map_dotted, ← String.toList_inj, String.toList_ofList,
    String.toList_intercalate]
  rfl

end

/-- Parts that are not empty and have no dot and no separator in them can be spelled as a path.
However this is done, with either separator at any place, with `./` in front or not, and with `.py`
at the end or not, the module is the parts with dots between them: it is the same for every
spelling. No module at all has a separator in its name. -/
theorem names_module (ps : List String) :
    (ps ≠ [] → (∀ p ∈ ps, IsPart p) → ∃ path : String, Spelled ps path.toList) ∧
    (∀ path : String, Spelled ps path.toList → moduleName path = ".".intercalate ps) ∧
    (∀ path path' : String, Spelled ps path.toList → Spelled ps path'.toList →
      moduleName path = moduleName path') ∧
    ∀ path : String, '/' ∉ (moduleName path).toList ∧ '\\' ∉ (moduleName path).toList := by
  have hname : ∀ path : String, Spelled ps path.toList → moduleName path = ".".intercalate ps :=
    fun path h => h.moduleName_eq_intercalate
  refine ⟨fun hne hps => ?_, hname,
    fun path path' h h' => (hname path h).trans (hname path' h').symm, fun path => ?_⟩
  · obtain ⟨s, hs⟩ := exists_joined hne hps
    exact ⟨String.ofList s, by rw [String.toList_ofList]; exact .bare hs⟩
  · rw [moduleName_eq, String.toList_ofList]
    constructor <;> intro hmem
    · obtain ⟨c, -, hc⟩ := List.mem_map.1 hmem
      exact (dotted_ne_separator c).1 hc
    · obtain ⟨c, -, hc⟩ := List.mem_map.1 hmem
      exact (dotted_ne_separator c).2 hc

/-- A last part that would be the ending, were the separator before it a dot already. -/
theorem names_module_of_py :
    let ps := ["app", "py"]
    (∀ p ∈ ps, IsPart p) ∧ Spelled ps "././app\\py".toList ∧ Spelled ps "app/py.py".toList ∧
      moduleName "././app\\py" = "app.py" ∧ moduleName "app/py.py" = "app.py" := by
  intro ps
  have happ : IsPart "app" := ⟨by decide, by decide, by decide⟩
  have hpy : IsPart "py" := ⟨by decide, by decide, by decide⟩
  have hparts : ∀ p ∈ ps, IsPart p :=
    List.forall_mem_cons.2 ⟨happ, List.forall_mem_singleton.2 hpy⟩
  have hfirst : Spelled ps "././app\\py".toList := by
    have hsplit : "././app\\py".toList =
        '.' :: '/' :: '.' :: '/' :: ("app".toList ++ '\\' :: "py".toList) := by decide
    rw [hsplit]
    exact .here (.here (.bare (.more happ (.inr rfl) (.one hpy))))
  have hsecond : Spelled ps "app/py.py".toList := by
    have hsplit : "app/py.py".toList = ("app".toList ++ '/' :: "py".toList) ++ ".py".toList := by
      decide
    rw [hsplit]
    exact .ending (.more happ (.inl rfl) (.one hpy))
  obtain ⟨-, hmodule, hsame, -⟩ := names_module ps
  have hname : moduleName "app/py.py" = "app.py" := (hmodule _ hsecond).trans (by decide)
  exact ⟨hparts, hfirst, hsecond, (hsame _ _ hfirst hsecond).trans hname, hname⟩

end FunctionHost
