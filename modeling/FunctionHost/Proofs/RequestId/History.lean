import FunctionHost.Proofs.Text.Digits
import FunctionHost.RequestId
import Mathlib.Data.List.Nodup
/-!
# Histories of ids

A counter and slots go through a history of steps. One id is counted for each step that mints one
(`counter_step`), so the ids are minted in the order of their numbers (`minted_eq`). A slot is
changed by its own steps alone (`get?_slots_step`), and keeps its id until it is set or cleared
(`get?_slots_after`).

Main statement: `numbers_ids`, for every history and any number of slots. The count is a natural
number; one of sixty-four bits is the same as long as fewer than 2^64 ids are minted.
-/

namespace FunctionHost.RequestId

open FunctionHost.Text

/-! ### Counters -/

namespace Counter

/-- A counter after some more ids. -/
def advanced (c : Counter) (k : Nat) : Counter := { c with issued := c.issued + k }

@[simp] theorem idOf_advanced (c : Counter) (k : Nat) : (c.advanced k).idOf = c.idOf := rfl

@[simp] theorem issued_advanced (c : Counter) (k : Nat) :
    (c.advanced k).issued = c.issued + k := rfl

theorem advanced_add (c : Counter) (j k : Nat) :
    c.advanced (j + k) = (c.advanced j).advanced k := by
  simp [advanced, Nat.add_assoc]

theorem advanced_eq_self_iff {c : Counter} {k : Nat} : c.advanced k = c ↔ k = 0 := by
  refine ⟨fun h => ?_, fun h => by rw [h]; rfl⟩
  have hissued := congrArg issued h
  rw [issued_advanced] at hissued
  omega

/-- The id that a request goes with: its own, or the next one, which is counted then. -/
theorem obtain_eq (c : Counter) (slot : Option String) : c.obtain slot =
    (slot.getD (c.idOf (c.issued + 1)), c.advanced (if slot = none then 1 else 0)) := by
  cases slot <;> rfl

/-- Ids with different numbers are different. -/
theorem idOf_inj {c : Counter} {m n : Nat} (h : c.idOf m = c.idOf n) : m = n := by
  have hlist := congrArg String.toList h
  simp only [idOf, String.toList_append, String.toList_ofList, List.append_cancel_left_eq] at hlist
  exact decimal_inj hlist

end Counter

/-! ### Slots -/

namespace Slots

variable {name other : String}

theorem get?_clear_of_ne (s : Slots) (h : other ≠ name) :
    (s.clear name).get? other = s.get? other := by
  unfold clear get?
  induction s with
  | nil => rfl
  | cons p s ih =>
    by_cases hp : p.1 = name
    · have hne : (other == p.1) = false := by simp [hp, h]
      rw [List.filter_cons_of_neg (by simp [hp]), ih, List.lookup_cons, hne]
    · rw [List.filter_cons_of_pos (by simp [hp]), List.lookup_cons, List.lookup_cons, ih]

theorem get?_set_self (s : Slots) (name id : String) : (s.set name id).get? name = some id :=
  List.lookup_cons_self

theorem get?_set_of_ne (s : Slots) (id : String) (h : other ≠ name) :
    (s.set name id).get? other = s.get? other := by
  have hne : (other == name) = false := by simp [h]
  have hset : (s.set name id).get? other = (s.clear name).get? other := by
    unfold set get?
    rw [List.lookup_cons, hne]
  rw [hset, get?_clear_of_ne s h]

end Slots

/-! ### One step -/

/-- The slot that a step is about. -/
def Step.slot? : Step → Option String
  | .mint | .issued => none
  | .obtain name | .set name _ | .get name | .clear name => some name

/-- A step sets or clears a slot. -/
def Step.Replaces (name : String) : Step → Prop
  | .set n _ | .clear n => n = name
  | _ => False

/-- The id in an answer. -/
def Answer.id? : Answer → Option String
  | .id s => some s
  | _ => none

namespace Source

/-- A step takes the id of a slot that is empty. -/
def takesEmpty (s : Source) : Step → Bool
  | .obtain name => (s.slots.get? name).isNone
  | _ => false

/-- A step mints an id: it asks for one, or takes the id of an empty slot. -/
def mints (s : Source) (st : Step) : Bool := st = .mint || s.takesEmpty st

section

variable (s : Source) (st : Step)

/-- One id is counted for a step that mints one. -/
theorem counter_step : (s.step st).2.counter =
    s.counter.advanced (if s.mints st then 1 else 0) := by
  cases st with
  | obtain name =>
    have hstep : (s.step (.obtain name)).2.counter = (s.counter.obtain (s.slots.get? name)).2 := rfl
    rw [hstep, Counter.obtain_eq]
    cases hslot : s.slots.get? name <;> simp [mints, takesEmpty, hslot]
  | _ => rfl

/-- The id that a step mints is the next one. -/
theorem id?_step_of_mints (h : s.mints st = true) :
    (s.step st).1.id? = some (s.counter.idOf (s.counter.issued + 1)) := by
  cases st with
  | mint => rfl
  | obtain name =>
    have hslot : s.slots.get? name = none := by simpa [mints, takesEmpty] using h
    have hstep : (s.step (.obtain name)).1.id? =
      some (s.counter.obtain (s.slots.get? name)).1 := rfl
    rw [hstep, Counter.obtain_eq, hslot, Option.getD_none]
  | _ => cases h

/-- A step changes no slot but its own. -/
theorem get?_slots_step {other : String} (h : st.slot? ≠ some other) :
    (s.step st).2.slots.get? other = s.slots.get? other := by
  cases st with
  | mint | issued | get => rfl
  | obtain name => exact Slots.get?_set_of_ne _ _ fun heq => h (heq ▸ rfl)
  | set name id => exact Slots.get?_set_of_ne _ _ fun heq => h (heq ▸ rfl)
  | clear name => exact Slots.get?_clear_of_ne _ fun heq => h (heq ▸ rfl)

/-- A step that takes the id of a slot answers what the slot held, or the next id, and this is what
the slot holds afterwards. -/
theorem step_obtain (name : String) :
    let id := (s.slots.get? name).getD (s.counter.idOf (s.counter.issued + 1))
    (s.step (.obtain name)).1 = .id id ∧ (s.step (.obtain name)).2.slots.get? name = some id := by
  intro id
  have hobtain : (s.counter.obtain (s.slots.get? name)).1 = id :=
    congrArg Prod.fst (s.counter.obtain_eq (s.slots.get? name))
  constructor
  · exact congrArg Answer.id hobtain
  · rw [← hobtain]
    exact Slots.get?_set_self _ _ _

/-- Taking the id of a slot counts nothing exactly if the slot holds one. -/
theorem counter_step_obtain_eq_iff (name : String) :
    (s.step (.obtain name)).2.counter = s.counter ↔ s.slots.get? name ≠ none := by
  rw [counter_step, Counter.advanced_eq_self_iff]
  cases hslot : s.slots.get? name <;> simp [mints, takesEmpty, hslot]

/-- A slot keeps its id unless it is set or cleared. -/
theorem get?_slots_step_of_some {name id : String} (hslot : s.slots.get? name = some id)
    (h : ¬ st.Replaces name) : (s.step st).2.slots.get? name = some id := by
  by_cases hst : st.slot? = some name
  · cases st with
    | mint | issued | get => exact hslot
    | obtain n =>
      obtain rfl : n = name := Option.some.inj hst
      rw [(s.step_obtain n).2, hslot, Option.getD_some]
    | set n _ => exact absurd (Option.some.inj hst) h
    | clear n => exact absurd (Option.some.inj hst) h
  · rw [get?_slots_step s st hst, hslot]

end

/-! ### Histories -/

/-- What is answered in a history. -/
def answers (s : Source) (sts : List Step) : List Answer := (s.run sts).1

/-- A source after a history. -/
def after (s : Source) (sts : List Step) : Source := (s.run sts).2

/-- How many steps of a history take the id of a slot that is empty then. -/
def emptyTakes (s : Source) : List Step → Nat
  | [] => 0
  | st :: sts => (if s.takesEmpty st then 1 else 0) + (s.step st).2.emptyTakes sts

/-- How many steps of a history mint an id. -/
def mintings (s : Source) (sts : List Step) : Nat := sts.count .mint + s.emptyTakes sts

/-- The ids that the steps of a history mint, in order. -/
def minted (s : Source) : List Step → List String
  | [] => []
  | st :: sts => (if s.mints st then (s.step st).1.id?.toList else []) ++ (s.step st).2.minted sts

section

variable (s : Source) (st : Step) (before sts : List Step)

theorem after_cons : s.after (st :: sts) = (s.step st).2.after sts := rfl

theorem answers_cons : s.answers (st :: sts) = (s.step st).1 :: (s.step st).2.answers sts := rfl

theorem after_append : s.after (before ++ sts) = (s.after before).after sts := by
  induction before generalizing s with
  | nil => rfl
  | cons t before ih => exact ih _

theorem length_answers : (s.answers sts).length = sts.length := by
  induction sts generalizing s with
  | nil => rfl
  | cons t sts ih => exact congrArg (· + 1) (ih _)

theorem answers_append :
    s.answers (before ++ sts) = s.answers before ++ (s.after before).answers sts := by
  induction before generalizing s with
  | nil => rfl
  | cons t before ih => exact congrArg (_ :: ·) (ih _)

/-- The answer to a step is that of the source after the steps before it. -/
theorem answers_getElem? : (s.answers (before ++ st :: sts))[before.length]? =
    some ((s.after before).step st).1 := by
  rw [answers_append, answers_cons, ← length_answers s before,
    List.getElem?_append_right (Nat.le_refl _), Nat.sub_self, List.getElem?_cons_zero]

theorem mintings_cons : s.mintings (st :: sts) =
    (if s.mints st then 1 else 0) + (s.step st).2.mintings sts := by
  -- a step that asks for an id takes none from a slot, so no step is counted twice
  have hmint : s.takesEmpty .mint = false := rfl
  unfold mintings mints
  rw [emptyTakes, List.count_cons]
  by_cases h : st = .mint
  · subst h
    simp [hmint]
    omega
  · simp [h]
    omega

/-- As many ids are counted as steps mint one. -/
theorem counter_after : (s.after sts).counter = s.counter.advanced (s.mintings sts) := by
  induction sts generalizing s with
  | nil => rfl
  | cons st sts ih =>
    rw [after_cons, ih, counter_step, mintings_cons, Counter.advanced_add]

/-- The ids are minted in the order of their numbers. -/
theorem minted_eq : s.minted sts =
    (List.range' (s.counter.issued + 1) (s.mintings sts)).map s.counter.idOf := by
  induction sts generalizing s with
  | nil => rfl
  | cons st sts ih =>
    rw [minted, ih, counter_step, mintings_cons, Counter.idOf_advanced, Counter.issued_advanced]
    cases h : s.mints st with
    | false => simp
    | true => simp [id?_step_of_mints s st h, Nat.add_comm 1, List.range'_succ]

/-- A slot keeps its id through steps that neither set nor clear it. -/
theorem get?_slots_after {name id : String} (hslot : s.slots.get? name = some id)
    (h : ∀ st ∈ sts, ¬ st.Replaces name) : (s.after sts).slots.get? name = some id := by
  induction sts generalizing s with
  | nil => exact hslot
  | cons st sts ih =>
    rw [List.forall_mem_cons] at h
    exact ih _ (get?_slots_step_of_some s st hslot h.1) h.2

end

/-- What the id of a slot is when it is taken is answered again when it is taken later, unless the
slot is set or cleared in between. -/
theorem answers_obtain_again {s : Source} {before between rest : List Step} {name id : String}
    (hslot : (s.after (before ++ [.obtain name])).slots.get? name = some id)
    (hkept : ∀ st ∈ between, ¬ st.Replaces name) :
    (s.answers (before ++ .obtain name :: (between ++ .obtain name :: rest)))[before.length + 1 +
      between.length]? = some (.id id) := by
  have hsplit : before ++ Step.obtain name :: (between ++ .obtain name :: rest) =
      (before ++ [.obtain name] ++ between) ++ .obtain name :: rest := by simp
  have hlength : before.length + 1 + between.length =
      (before ++ [Step.obtain name] ++ between).length := by
    rw [List.length_append, List.length_append, List.length_singleton]
  rw [hsplit, hlength, answers_getElem?, (step_obtain _ name).1, after_append,
    get?_slots_after _ _ hslot hkept, Option.getD_some]

/-- In every history of a new counter, with any slots, the ids that are minted are numbered from one
without a gap, and are all different. The count at any time is that of the steps that minted an id:
those that ask for one, and those that take the id of a slot that is empty then. Taking the id of a
slot answers what the slot holds afterwards, which is what it held before or the next id; nothing is
counted exactly if it held one, and taking it again gives the same id unless the slot was set or
cleared in between. No step changes another slot. -/
theorem numbers_ids (stem : String) (slots : Slots) (sts : List Step) :
    let s : Source := ⟨{ stem }, slots⟩
    s.minted sts = (List.range' 1 (sts.count .mint + s.emptyTakes sts)).map
      (fun n => stem ++ "-" ++ toString n) ∧
    (s.minted sts).Nodup ∧
    (s.after sts).counter.issued = sts.count .mint + s.emptyTakes sts ∧
    (∀ before later, sts = before ++ .issued :: later →
      (s.answers sts)[before.length]? =
        some (.count (before.count .mint + s.emptyTakes before))) ∧
    (∀ before name later, sts = before ++ .obtain name :: later →
      let old := s.after before
      let new := s.after (before ++ [.obtain name])
      ∃ id, (s.answers sts)[before.length]? = some (.id id) ∧
        new.slots.get? name = some id ∧
        (∀ held, old.slots.get? name = some held → id = held) ∧
        (new.counter = old.counter ↔ old.slots.get? name ≠ none) ∧
        ∀ between rest, later = between ++ .obtain name :: rest →
          (∀ st ∈ between, ¬ st.Replaces name) →
          (s.answers sts)[before.length + 1 + between.length]? = some (.id id)) ∧
    ∀ before st later other, sts = before ++ st :: later → st.slot? ≠ some other →
      (s.after (before ++ [st])).slots.get? other = (s.after before).slots.get? other := by
  intro s
  have hminted := s.minted_eq sts
  have hone : ∀ before st, s.after (before ++ [st]) = ((s.after before).step st).2 := by
    intro before st
    rw [after_append]
    rfl
  have hissued : ∀ sts, (s.after sts).counter.issued = sts.count .mint + s.emptyTakes sts := by
    intro sts
    rw [counter_after]
    exact Nat.zero_add _
  refine ⟨?_, ?_, hissued sts, ?_, ?_, ?_⟩
  · rw [hminted]
    refine List.map_congr_left fun n _ => ?_
    rw [Counter.idOf, ofList_decimal]
  · rw [hminted]
    exact List.Nodup.map (fun _ _ h => Counter.idOf_inj h) List.nodup_range'
  · rintro before later rfl
    rw [answers_getElem?, ← hissued]
    rfl
  · rintro before name later rfl old new
    obtain ⟨hanswer, hslot⟩ := old.step_obtain name
    have hnew : new = (old.step (.obtain name)).2 := hone before _
    rw [← hnew] at hslot
    refine ⟨_, ?_, hslot, ?_, ?_, ?_⟩
    · rw [answers_getElem?, hanswer]
    · intro held hheld
      rw [hheld, Option.getD_some]
    · rw [hnew]
      exact old.counter_step_obtain_eq_iff name
    · rintro between rest rfl hkept
      exact answers_obtain_again hslot hkept
  · rintro before st later other rfl hother
    rw [hone]
    exact get?_slots_step _ st hother

/-- Two slots, one of which is filled from outside and one of which is cleared. -/
def twoSlots : List Step := [
  .set "a" "up-7", .obtain "b", .obtain "a", .mint, .set "a" "up-8", .obtain "b", .clear "b",
  .obtain "b", .issued]

/-- The id of the second slot is answered again until the slot is cleared. -/
theorem numbers_ids_of_two_slots :
    let s : Source := ⟨{ stem := "t" }, []⟩
    s.minted twoSlots = ["t-1", "t-2", "t-3"] ∧
      (s.answers twoSlots)[1]? = (s.answers twoSlots)[5]? ∧
      (s.answers twoSlots)[8]? = some (.count 3) ∧
      (s.after (twoSlots.take 2)).slots.get? "a" = some "up-7" := by
  intro s
  obtain ⟨hminted, -, -, hissued, hobtain, hother⟩ := numbers_ids "t" [] twoSlots
  obtain ⟨id, hfirst, -, -, -, hagain⟩ := hobtain [.set "a" "up-7"] "b" _ rfl
  have hsecond := hagain [.obtain "a", .mint, .set "a" "up-8"] _ rfl
    (by simp [Step.Replaces])
  refine ⟨hminted.trans (by decide), ?_, ?_, ?_⟩
  · exact hfirst.trans hsecond.symm
  · exact (hissued (twoSlots.take 8) [] rfl).trans (by decide)
  · exact (hother [.set "a" "up-7"] (.obtain "b") _ "a" rfl (by decide)).trans (by decide)

end Source

end FunctionHost.RequestId
