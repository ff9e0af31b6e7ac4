import FunctionHost.Event.Basic
import FunctionHost.Proofs.Text.Order
import Mathlib.Data.List.Induction
/-!
# Values by key

Headers and queries are lists of pairs, and an event has their values by key. A key is written when
it first occurs, at its place in the order of texts, and each further value of it is added at the
end of its list. So `group` loses nothing: under each key are its values, in the order in which they
occur (`mem_group_iff`).

Main statements: `groups_grouped`, the map of an event has under each key one value or a list of at
least two, as they occur; and `Groups.unique`, such a map is determined by the values of each key,
wherever they stand among those of other keys.
-/

namespace FunctionHost

open FunctionHost.Text

namespace SortedMap

variable {α : Type} {m : SortedMap α} {key k : String} {v : α} {f : Option α → α}

/-- The keys ascend, so no key occurs twice. -/
def Sorted (m : SortedMap α) : Prop := m.Pairwise fun p q => p.1 < q.1

/-- The bytes of the keys ascend. -/
def Ascending (m : SortedMap α) : Prop :=
  m.Pairwise fun p q => Utf8.encode p.1.toList < Utf8.encode q.1.toList

theorem Sorted.ascending (h : m.Sorted) : m.Ascending :=
  h.imp fun hlt => Utf8.encode_lt_encode hlt

/-! ### One key -/

theorem mem_keys_alter (h : k ∈ (alter key f m).map Prod.fst) : k = key ∨ k ∈ m.map Prod.fst := by
  induction m with
  | nil => exact .inl (List.mem_singleton.1 h)
  | cons p m ih =>
    obtain ⟨k', v'⟩ := p
    unfold alter at h
    split_ifs at h with heq hlt
    · exact .inr h
    · exact List.mem_cons.1 h
    · rw [List.map_cons, List.mem_cons] at h ⊢
      rcases h with rfl | h
      · exact .inr (.inl rfl)
      · exact (ih h).imp_right .inr

theorem Sorted.alter (h : m.Sorted) : (alter key f m).Sorted := by
  induction m with
  | nil => exact List.pairwise_singleton _ _
  | cons p m ih =>
    obtain ⟨k', v'⟩ := p
    obtain ⟨hhead, hm⟩ := List.pairwise_cons.1 h
    unfold SortedMap.alter
    split_ifs with heq hlt
    · exact List.pairwise_cons.2 ⟨hhead, hm⟩
    · refine List.pairwise_cons.2 ⟨?_, h⟩
      intro q hq
      rcases List.mem_cons.1 hq with rfl | hq
      · exact hlt
      · exact String.lt_trans hlt (hhead q hq)
    · refine List.pairwise_cons.2 ⟨?_, ih hm⟩
      intro q hq
      rcases mem_keys_alter (List.mem_map_of_mem hq) with heq' | hq
      · have hgt : k' < key := by
          rcases Std.lt_trichotomy key k' with h' | h' | h'
          · exact absurd h' hlt
          · exact absurd h' heq
          · exact h'
        rwa [heq']
      · obtain ⟨r, hr, hkey⟩ := List.mem_map.1 hq
        rw [← hkey]
        exact hhead r hr

theorem lookup_cons_of_ne (h : key ≠ k) : List.lookup key ((k, v) :: m) = m.lookup key := by
  have hbeq : (key == k) = false := beq_false_of_ne h
  rw [List.lookup_cons, hbeq]

/-- A key that is less than all keys is not there. -/
theorem lookup_eq_none_of_lt (h : ∀ p ∈ m, key < p.1) : m.lookup key = none := by
  rw [List.lookup_eq_none_iff]
  intro p hp
  have hne : key ≠ p.1 := fun heq => String.lt_irrefl key (by simpa [← heq] using h p hp)
  simpa using hne

/-- Changing a key leaves all others as they are. -/
theorem mem_alter_iff (h : m.Sorted) : (k, v) ∈ alter key f m ↔
    (k = key ∧ v = f (m.lookup key)) ∨ (k ≠ key ∧ (k, v) ∈ m) := by
  induction m with
  | nil => simp [alter]
  | cons p m ih =>
    obtain ⟨k', v'⟩ := p
    obtain ⟨hhead, hm⟩ := List.pairwise_cons.1 h
    have hne : ∀ q ∈ m, q.1 ≠ k' := fun q hq heq =>
      String.lt_irrefl k' (by simpa [heq] using hhead q hq)
    unfold alter
    split_ifs with heq hlt
    · subst heq
      simp only [List.mem_cons, Prod.mk.injEq, List.lookup_cons_self]
      constructor
      · rintro (⟨rfl, rfl⟩ | hmem)
        · exact .inl ⟨rfl, rfl⟩
        · exact .inr ⟨hne _ hmem, .inr hmem⟩
      · rintro (⟨rfl, rfl⟩ | ⟨hk, ⟨rfl, -⟩ | hmem⟩)
        · exact .inl ⟨rfl, rfl⟩
        · exact absurd rfl hk
        · exact .inr hmem
    · have hless : ∀ q ∈ (k', v') :: m, key < q.1 := by
        intro q hq
        rcases List.mem_cons.1 hq with rfl | hq
        · exact hlt
        · exact String.lt_trans hlt (hhead q hq)
      rw [lookup_eq_none_of_lt hless, List.mem_cons, Prod.mk.injEq]
      constructor
      · rintro (hnew | hold)
        · exact .inl hnew
        · refine .inr ⟨?_, hold⟩
          rintro rfl
          exact String.lt_irrefl k (hless _ hold)
      · rintro (hnew | ⟨-, hold⟩)
        · exact .inl hnew
        · exact .inr hold
    · rw [lookup_cons_of_ne heq, List.mem_cons, ih hm, List.mem_cons, Prod.mk.injEq]
      constructor
      · rintro (⟨rfl, rfl⟩ | hnew | ⟨hk, hold⟩)
        · exact .inr ⟨Ne.symm heq, .inl ⟨rfl, rfl⟩⟩
        · exact .inl hnew
        · exact .inr ⟨hk, .inr hold⟩
      · rintro (hnew | ⟨hk, hsame | hold⟩)
        · exact .inr (.inl hnew)
        · exact .inl hsame
        · exact .inr (.inr ⟨hk, hold⟩)

theorem Sorted.lookup_eq_some_iff (h : m.Sorted) : m.lookup k = some v ↔ (k, v) ∈ m := by
  induction m with
  | nil => simp
  | cons p m ih =>
    obtain ⟨k', v'⟩ := p
    obtain ⟨hhead, hm⟩ := List.pairwise_cons.1 h
    by_cases heq : k = k'
    · subst heq
      have hnot : (k, v) ∉ m := fun hmem => String.lt_irrefl k (hhead _ hmem)
      simp [hnot, eq_comm]
    · rw [lookup_cons_of_ne heq, ih hm]
      simp [heq]

/-- Two maps with the same members are the same. -/
theorem Ascending.eq_of_mem_iff {m' : SortedMap α} (h : m.Ascending) (h' : m'.Ascending)
    (hmem : ∀ p, p ∈ m ↔ p ∈ m') : m = m' := by
  have hirrefl : ∀ {a b : String × α},
      Utf8.encode a.1.toList < Utf8.encode b.1.toList → a ≠ b := by
    rintro a b hlt rfl
    exact List.lt_irrefl _ hlt
  have hperm : m.Perm m' :=
    (List.perm_ext_iff_of_nodup (h.imp hirrefl) (h'.imp hirrefl)).2 hmem
  refine hperm.eq_of_pairwise ?_ h h'
  intro a b _ _ hab hba
  exact absurd (List.lt_trans hab hba) (List.lt_irrefl _)

/-! ### All keys -/

/-- The values of a key among pairs, in the order in which they occur. -/
def valuesOf (k : String) (ps : List (String × String)) : List String :=
  (ps.filter (·.1 = k)).map Prod.snd

theorem valuesOf_append (k : String) (ps qs : List (String × String)) :
    valuesOf k (ps ++ qs) = valuesOf k ps ++ valuesOf k qs := by
  simp [valuesOf]

theorem group_concat (ps : List (String × String)) (p : String × String) :
    group (ps ++ [p]) = alter p.1 (fun vs => vs.getD [] ++ [p.2]) (group ps) := by
  simp [group]

theorem sorted_group (ps : List (String × String)) : (group ps).Sorted := by
  induction ps using List.reverseRecOn with
  | nil => exact List.Pairwise.nil
  | append_singleton ps p ih =>
    rw [group_concat]
    exact ih.alter

/-- Under each key that occurs are its values, and no other key is there. -/
theorem mem_group_iff {ps : List (String × String)} {vs : List String} :
    (k, vs) ∈ group ps ↔ vs ≠ [] ∧ vs = valuesOf k ps := by
  induction ps using List.reverseRecOn generalizing k vs with
  | nil =>
    have hnil : group [] = [] := rfl
    have hnone : valuesOf k [] = [] := rfl
    rw [hnil, hnone]
    simp
  | append_singleton ps p ih =>
    have hread : ((group ps).lookup p.1).getD [] = valuesOf p.1 ps := by
      cases hl : (group ps).lookup p.1 with
      | some ws => exact (ih.1 ((sorted_group ps).lookup_eq_some_iff.1 hl)).2
      | none =>
        by_contra hne
        have hmem : (p.1, valuesOf p.1 ps) ∈ group ps := ih.2 ⟨Ne.symm hne, rfl⟩
        rw [(sorted_group ps).lookup_eq_some_iff.2 hmem] at hl
        cases hl
    rw [group_concat, mem_alter_iff (sorted_group ps), hread, ih, valuesOf_append]
    by_cases hk : k = p.1
    · have hlast : valuesOf k [p] = [p.2] := by simp [valuesOf, hk]
      rw [hlast, hk]
      constructor
      · rintro (⟨-, rfl⟩ | ⟨hne, -⟩)
        · exact ⟨by simp, rfl⟩
        · exact absurd rfl hne
      · rintro ⟨-, rfl⟩
        exact .inl ⟨rfl, rfl⟩
    · have hlast : valuesOf k [p] = [] := by simp [valuesOf, Ne.symm hk]
      simp [hlast, hk]

/-- A value more under a key is one value more in all. -/
theorem length_values_alter (m : SortedMap (List String)) (key x : String) :
    ((alter key (fun vs => vs.getD [] ++ [x]) m).flatMap Prod.snd).length =
      (m.flatMap Prod.snd).length + 1 := by
  induction m with
  | nil => rfl
  | cons p m ih =>
    unfold alter
    split_ifs
    · simp only [List.flatMap_cons, List.length_append, Option.getD_some, List.length_singleton]
      omega
    · simp only [List.flatMap_cons, List.length_append, Option.getD_none, List.length_nil,
        List.length_singleton]
      omega
    · simp only [List.flatMap_cons, List.length_append, ih]
      omega

/-- There are as many values as pairs. -/
theorem length_values_group (ps : List (String × String)) :
    ((group ps).flatMap Prod.snd).length = ps.length := by
  induction ps using List.reverseRecOn with
  | nil => rfl
  | append_singleton ps p ih =>
    rw [group_concat, length_values_alter, ih, List.length_append, List.length_singleton]

end SortedMap

/-! ### One value or many -/

/-- All values under a key. -/
def Values.list : Values → List String
  | .one v => [v]
  | .many vs => vs

/-- There is a list only where there are at least two values. -/
def Values.Tight : Values → Prop
  | .one _ => True
  | .many vs => 2 ≤ vs.length

/-- The values of a key are put together as they are, and only no values at all give nothing. -/
theorem Values.collapse_eq_some_iff {vs : List String} {x : Values} :
    Values.collapse vs = some x ↔ x.Tight ∧ x.list = vs := by
  constructor
  · intro h
    unfold collapse at h
    split at h
    next => cases h
    next => cases h; exact ⟨trivial, rfl⟩
    next hne hone =>
      cases h
      refine ⟨?_, rfl⟩
      match vs with
      | [] => exact absurd rfl hne
      | [v] => exact absurd rfl (hone v)
      | _ :: _ :: _ => simp [Tight]
  · rintro ⟨ht, rfl⟩
    cases x with
    | one v => rfl
    | many vs =>
      match vs, ht with
      | _ :: _ :: _, _ => rfl

theorem Values.collapse_eq_none_iff {vs : List String} : Values.collapse vs = none ↔ vs = [] := by
  constructor
  · intro h
    match vs, h with
    | [], _ => rfl
    | [v], h => cases h
    | _ :: _ :: _, h => cases h
  · rintro rfl
    rfl

theorem Values.Tight.list_ne_nil {x : Values} (h : x.Tight) : x.list ≠ [] := by
  cases x with
  | one v => exact List.cons_ne_nil v []
  | many vs =>
    rintro rfl
    exact Nat.not_succ_le_zero 1 h

/-- A map has the values of pairs by key: one value or a list of at least two, in the order in which
they occur. -/
structure Groups (m : SortedMap Values) (ps : List (String × String)) : Prop where
  /-- The keys ascend, so that each is there once. -/
  ascending : m.Ascending
  /-- What stands under a key are the values of the pairs with that key. -/
  mem_iff : ∀ k x, (k, x) ∈ m ↔ x.Tight ∧ x.list = SortedMap.valuesOf k ps
  /-- There are as many values as pairs. -/
  length : (m.flatMap (·.2.list)).length = ps.length

section

variable {m m' : SortedMap Values} {ps qs : List (String × String)} {k : String}

/-- A key is there exactly if a pair has it. -/
theorem Groups.mem_keys_iff (h : Groups m ps) : k ∈ m.map Prod.fst ↔ k ∈ ps.map Prod.fst := by
  have hvalues : SortedMap.valuesOf k ps ≠ [] ↔ k ∈ ps.map Prod.fst := by
    rw [SortedMap.valuesOf, Ne, List.map_eq_nil_iff, List.filter_eq_nil_iff]
    simp
  rw [← hvalues]
  constructor
  · intro hk
    obtain ⟨⟨k', x⟩, hx, rfl⟩ := List.mem_map.1 hk
    obtain ⟨htight, hlist⟩ := (h.mem_iff k' x).1 hx
    rw [← hlist]
    exact htight.list_ne_nil
  · intro hne
    obtain ⟨x, hx⟩ := Option.ne_none_iff_exists'.1 (mt Values.collapse_eq_none_iff.1 hne)
    exact List.mem_map.2 ⟨(k, x), (h.mem_iff k x).2 (Values.collapse_eq_some_iff.1 hx), rfl⟩

/-- Only the values of each key matter, not where they stand among those of other keys. -/
theorem Groups.unique (h : Groups m ps) (h' : Groups m' qs)
    (hvalues : ∀ k, SortedMap.valuesOf k ps = SortedMap.valuesOf k qs) : m = m' := by
  refine h.ascending.eq_of_mem_iff h'.ascending ?_
  rintro ⟨k, x⟩
  rw [h.mem_iff, h'.mem_iff, hvalues]

end

theorem Values.mem_grouped_iff {ps : List (String × String)} {k : String} {x : Values} :
    (k, x) ∈ grouped ps ↔ x.Tight ∧ x.list = SortedMap.valuesOf k ps := by
  rw [grouped, List.mem_filterMap]
  constructor
  · rintro ⟨⟨k', vs⟩, hmem, hx⟩
    obtain ⟨y, hy, heq⟩ := Option.map_eq_some_iff.1 hx
    cases heq
    obtain ⟨htight, rfl⟩ := collapse_eq_some_iff.1 hy
    exact ⟨htight, (SortedMap.mem_group_iff.1 hmem).2⟩
  · rintro ⟨htight, hlist⟩
    refine ⟨(k, x.list), SortedMap.mem_group_iff.2 ⟨htight.list_ne_nil, hlist⟩, ?_⟩
    rw [collapse_eq_some_iff.2 ⟨htight, rfl⟩, Option.map_some]

/-- Putting the values of keys together loses none. -/
theorem Values.flatMap_list_collapse (m : SortedMap (List String)) :
    (m.filterMap fun p => (collapse p.2).map (p.1, ·)).flatMap (·.2.list) = m.flatMap Prod.snd := by
  induction m with
  | nil => rfl
  | cons p m ih =>
    obtain ⟨k, vs⟩ := p
    rw [List.flatMap_cons, ← ih]
    cases hx : collapse vs with
    | some x => simp [hx, (collapse_eq_some_iff.1 hx).2]
    | none =>
      obtain rfl := collapse_eq_none_iff.1 hx
      simp [hx]

theorem Values.groups_grouped (ps : List (String × String)) : Groups (grouped ps) ps where
  ascending := by
    refine SortedMap.Sorted.ascending (List.pairwise_filterMap.2 ?_)
    refine (SortedMap.sorted_group ps).imp ?_
    intro p q hlt a ha b hb
    obtain ⟨x, -, rfl⟩ := Option.map_eq_some_iff.1 ha
    obtain ⟨y, -, rfl⟩ := Option.map_eq_some_iff.1 hb
    exact hlt
  mem_iff _ _ := mem_grouped_iff
  length := by rw [grouped, flatMap_list_collapse, SortedMap.length_values_group]

end FunctionHost
