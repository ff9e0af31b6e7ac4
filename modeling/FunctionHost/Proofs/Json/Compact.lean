import FunctionHost.Proofs.Json.Literal
import FunctionHost.Proofs.Json.Number
/-!
# Reading compact text

The compact text of a value is read as the value, as long as the numbers in it are integers of 64
bits (`Integral`): strings, arrays and objects are read back whatever is in them, and nothing after
them is touched. The steps of the reader never run out, as each takes at least one character.

Main statements: `read?_text`, and `le_of_mem_chars`, the text is on one line.
-/

namespace FunctionHost.Json

open FunctionHost.Text

/-- The numbers in the value are integers of 64 bits, with a sign or without. -/
inductive Integral : Value → Prop where
  /-- The null value. -/
  | null : Integral .null
  /-- A truth value. -/
  | bool (b : Bool) : Integral (.bool b)
  /-- An integer. -/
  | int {n : Int} : -(Nat.pow 2 63 : Int) ≤ n → n ≤ maxWord → Integral (.int n)
  /-- A string. -/
  | str (s : String) : Integral (.str s)
  /-- An array. -/
  | arr {vs : List Value} : (∀ v ∈ vs, Integral v) → Integral (.arr vs)
  /-- An object. -/
  | obj {ms : List (String × Value)} : (∀ m ∈ ms, Integral m.2) → Integral (.obj ms)

/-! ### Characters -/

/-- The text of a member. -/
def pairChars (m : String × Value) : List Char := literalChars m.1.toList ++ ':' :: m.2.chars

theorem elementChars_eq_map (vs : List Value) : elementChars vs = vs.map Value.chars := by
  induction vs with
  | nil => rfl
  | cons v vs ih => rw [elementChars, ih, List.map_cons]

theorem memberChars_eq_map (ms : List (String × Value)) : memberChars ms = ms.map pairChars := by
  induction ms with
  | nil => rfl
  | cons m ms ih => rw [memberChars, ih, List.map_cons, pairChars]

theorem mem_commas {z : Char} {ps : List (List Char)} (h : z ∈ commas ps) :
    z = ',' ∨ ∃ p ∈ ps, z ∈ p := by
  fun_induction commas ps with
  | case1 => cases h
  | case2 p => exact .inr ⟨p, List.mem_singleton_self p, h⟩
  | case3 p ps _ ih =>
    rw [List.mem_append, List.mem_cons] at h
    rcases h with h | h | h
    · exact .inr ⟨p, List.mem_cons_self, h⟩
    · exact .inl h
    · exact (ih h).imp_right fun ⟨q, hq, hz⟩ => ⟨q, List.mem_cons_of_mem p hq, hz⟩

theorem le_of_mem_literalChars {s : String} {z : Char} (h : z ∈ literalChars s.toList) :
    0x20 ≤ z.toNat := by
  rw [← toList_literal] at h
  exact le_of_mem_literal h

/-- The text of a value is on one line. -/
theorem le_of_mem_chars {v : Value} (h : Integral v) : ∀ z ∈ v.chars, 0x20 ≤ z.toNat := by
  have hword : ∀ cs : List Char, cs.all (0x20 ≤ ·.toNat) = true → ∀ z ∈ cs, 0x20 ≤ z.toNat :=
    fun cs hcs z hz => of_decide_eq_true (List.all_eq_true.1 hcs z hz)
  induction h with
  | null => exact hword _ (by decide)
  | bool b => cases b <;> exact hword _ (by decide)
  | int _ _ => exact fun z => le_of_mem_intChars
  | str s => exact fun z => le_of_mem_literalChars
  | @arr vs _ ih =>
    intro z hz
    rw [Value.chars, elementChars_eq_map] at hz
    simp only [List.cons_append, List.mem_cons, List.mem_append, List.not_mem_nil, or_false] at hz
    rcases hz with rfl | hz | rfl
    · decide
    · rcases mem_commas hz with rfl | ⟨p, hp, hz⟩
      · decide
      · obtain ⟨v, hv, rfl⟩ := List.mem_map.1 hp
        exact ih v hv z hz
    · decide
  | @obj ms _ ih =>
    intro z hz
    rw [Value.chars, memberChars_eq_map] at hz
    simp only [List.cons_append, List.mem_cons, List.mem_append, List.not_mem_nil, or_false] at hz
    rcases hz with rfl | hz | rfl
    · decide
    · rcases mem_commas hz with rfl | ⟨p, hp, hz⟩
      · decide
      · obtain ⟨m, hm, rfl⟩ := List.mem_map.1 hp
        rw [pairChars, List.mem_append, List.mem_cons] at hz
        rcases hz with hz | rfl | hz
        · exact le_of_mem_literalChars hz
        · decide
        · exact ih m hm z hz
    · decide

/-- A text that begins as a value does: not with a blank, and with nothing that closes. -/
def Begins (cs : List Char) : Prop :=
  ∃ c t, cs = c :: t ∧ isBlank c = false ∧ c ≠ ']' ∧ c ≠ '\x7d'

theorem Begins.append {cs : List Char} (h : Begins cs) (rest : List Char) :
    Begins (cs ++ rest) := by
  obtain ⟨c, t, rfl, hc⟩ := h
  exact ⟨c, t ++ rest, rfl, hc⟩

theorem Begins.commas {p : List Char} (h : Begins p) (ps : List (List Char)) :
    Begins (Json.commas (p :: ps)) := by
  cases ps with
  | nil => exact h
  | cons q ps => exact h.append _

theorem Leads.isBlank {c : Char} (h : Leads c) : isBlank c = false := by
  cases hblank : Json.isBlank c with
  | false => rfl
  | true =>
    simp only [Json.isBlank, Bool.or_eq_true, beq_iff_eq] at hblank
    rcases hblank with ((rfl | rfl) | rfl) | rfl
    all_goals exact absurd rfl (h.ne (by decide) (by decide))

theorem begins_chars {v : Value} (h : Integral v) : Begins v.chars := by
  cases h with
  | null => exact ⟨_, _, rfl, by decide, by decide, by decide⟩
  | bool b => cases b <;> exact ⟨_, _, rfl, by decide, by decide, by decide⟩
  | @int n _ _ =>
    obtain ⟨c, t, hcons, hlead⟩ := exists_intChars_eq_cons n
    exact ⟨c, t, hcons, hlead.isBlank, hlead.ne (by decide) (by decide),
      hlead.ne (by decide) (by decide)⟩
  | str s => exact ⟨'\x22', _, rfl, by decide, by decide, by decide⟩
  | arr _ => exact ⟨'[', _, rfl, by decide, by decide, by decide⟩
  | obj _ => exact ⟨'\x7b', _, rfl, by decide, by decide, by decide⟩

theorem begins_pairChars (m : String × Value) : Begins (pairChars m) :=
  ⟨'\x22', _, rfl, by decide, by decide, by decide⟩

/-! ### Reading -/

/-- The value is read from its text, in as many steps as that has characters or more, and what
follows is left, if it does not go on with a number. -/
def ReadsBack (v : Value) : Prop :=
  ∀ steps rest, Follows rest → v.chars.length ≤ steps →
    readValue? steps (v.chars ++ rest) = some (v, rest)

theorem dropBlanks_cons {c : Char} (h : isBlank c = false) (cs : List Char) :
    dropBlanks (c :: cs) = c :: cs := List.dropWhile_cons_of_neg (by simp [h])

theorem readString?_literalChars (s : String) (rest : List Char) :
    readString? (literalChars s.toList ++ rest) = some (s, rest) := by
  rw [← toList_literal]
  exact readString?_literal s rest

section

variable {steps : Nat} {cs : List Char}

/-- A text that begins with a sign or a digit is read as a number. -/
theorem readValue?_number {c : Char} (h : Leads c) :
    readValue? (steps + 1) (c :: cs) = readNumber? (c :: cs) := by
  rw [readValue?, dropBlanks_cons h.isBlank]
  split
  case h_7 => rfl
  all_goals
    next heq => exact absurd (List.cons.inj heq).1 (h.ne (by decide) (by decide))

/-- An array that does not close at once has elements. -/
theorem readValue?_array (h : Begins cs) : readValue? (steps + 1) ('[' :: cs) =
    (readElements? steps cs).map fun (vs, rest) => (.arr vs, rest) := by
  obtain ⟨c, t, rfl, hblank, hclose, -⟩ := h
  rw [readValue?, dropBlanks_cons (by decide)]
  simp only [dropBlanks_cons hblank]
  split
  next heq => exact absurd (List.cons.inj heq).1 hclose
  next => rfl

/-- An object that does not close at once has members. -/
theorem readValue?_object (h : Begins cs) : readValue? (steps + 1) ('\x7b' :: cs) =
    (readMembers? steps cs).map fun (ms, rest) => (.obj ms, rest) := by
  obtain ⟨c, t, rfl, hblank, -, hclose⟩ := h
  rw [readValue?, dropBlanks_cons (by decide)]
  simp only [dropBlanks_cons hblank]
  split
  next heq => exact absurd (List.cons.inj heq).1 hclose
  next => rfl

end

/-- Elements are read up to the bracket after them. -/
theorem readElements?_commas {v : Value} {vs : List Value} (h : ∀ w ∈ v :: vs, ReadsBack w)
    (steps : Nat) (hsteps : (commas ((v :: vs).map Value.chars)).length < steps)
    (rest : List Char) : readElements? steps (commas ((v :: vs).map Value.chars) ++ ']' :: rest) =
      some (v :: vs, rest) := by
  induction vs generalizing v steps with
  | nil =>
    obtain ⟨steps, rfl⟩ : ∃ n, steps = n + 1 := ⟨steps - 1, by omega⟩
    have hone : commas ([v].map Value.chars) = v.chars := rfl
    rw [hone] at hsteps ⊢
    have hread := h v List.mem_cons_self steps (']' :: rest)
      (follows_cons (by decide) rest) (by omega)
    rw [readElements?, hread]
    rfl
  | cons w vs ih =>
    obtain ⟨steps, rfl⟩ : ∃ n, steps = n + 1 := ⟨steps - 1, by omega⟩
    have hmore : commas ((v :: w :: vs).map Value.chars) =
        v.chars ++ ',' :: commas ((w :: vs).map Value.chars) := rfl
    rw [hmore] at hsteps ⊢
    rw [List.length_append, List.length_cons] at hsteps
    have hread := h v List.mem_cons_self steps
      (',' :: (commas ((w :: vs).map Value.chars) ++ ']' :: rest))
      (follows_cons (by decide) _) (by omega)
    have hrest := ih (fun u hu => h u (List.mem_cons_of_mem v hu)) steps (by omega)
    have hcomma : ∀ cs, dropBlanks (',' :: cs) = ',' :: cs := dropBlanks_cons (by decide)
    rw [List.append_assoc, List.cons_append, readElements?, hread]
    simp only [Option.bind_eq_bind, Option.bind_some, hcomma, hrest]
    rfl

/-- Members are read up to the brace after them. -/
theorem readMembers?_commas {m : String × Value} {ms : List (String × Value)}
    (h : ∀ n ∈ m :: ms, ReadsBack n.2) (steps : Nat)
    (hsteps : (commas ((m :: ms).map pairChars)).length < steps) (rest : List Char) :
    readMembers? steps (commas ((m :: ms).map pairChars) ++ '\x7d' :: rest) =
      some (m :: ms, rest) := by
  have hkey : ∀ (k : String) (cs : List Char), dropBlanks (literalChars k.toList ++ cs) =
      literalChars k.toList ++ cs := fun k cs => dropBlanks_cons (by decide) _
  have hcolon : ∀ cs, dropBlanks (':' :: cs) = ':' :: cs := dropBlanks_cons (by decide)
  induction ms generalizing m steps with
  | nil =>
    obtain ⟨steps, rfl⟩ : ∃ n, steps = n + 1 := ⟨steps - 1, by omega⟩
    have hone : commas ([m].map pairChars) = literalChars m.1.toList ++ ':' :: m.2.chars := rfl
    rw [hone] at hsteps ⊢
    rw [List.length_append, List.length_cons] at hsteps
    have hread := h m List.mem_cons_self steps ('\x7d' :: rest)
      (follows_cons (by decide) rest) (by omega)
    rw [List.append_assoc, List.cons_append, readMembers?, hkey, readString?_literalChars]
    simp only [Option.bind_eq_bind, Option.bind_some, hcolon, hread]
    rfl
  | cons n ms ih =>
    obtain ⟨steps, rfl⟩ : ∃ n, steps = n + 1 := ⟨steps - 1, by omega⟩
    have hmore : commas ((m :: n :: ms).map pairChars) = literalChars m.1.toList ++
        ':' :: (m.2.chars ++ ',' :: commas ((n :: ms).map pairChars)) := by
      simp [commas, pairChars]
    rw [hmore] at hsteps ⊢
    simp only [List.length_append, List.length_cons] at hsteps
    have hread := h m List.mem_cons_self steps
      (',' :: (commas ((n :: ms).map pairChars) ++ '\x7d' :: rest))
      (follows_cons (by decide) _) (by omega)
    have hrest := ih (fun u hu => h u (List.mem_cons_of_mem m hu)) steps (by omega)
    have hcomma : ∀ cs, dropBlanks (',' :: cs) = ',' :: cs := dropBlanks_cons (by decide)
    rw [List.append_assoc, List.cons_append, List.append_assoc, List.cons_append, readMembers?,
      hkey, readString?_literalChars]
    simp only [Option.bind_eq_bind, Option.bind_some, hcolon, hread, hcomma, hrest]
    rfl

/-- One step there is always. -/
theorem ReadsBack.of_succ {v : Value} (h : Begins v.chars)
    (hread : ∀ steps rest, Follows rest → v.chars.length ≤ steps + 1 →
      readValue? (steps + 1) (v.chars ++ rest) = some (v, rest)) : ReadsBack v := by
  intro steps rest hrest hsteps
  obtain ⟨c, t, hcons, -⟩ := h
  rw [hcons, List.length_cons] at hsteps
  obtain ⟨n, rfl⟩ : ∃ n, steps = n + 1 := ⟨steps - 1, by omega⟩
  exact hread n rest hrest (by rw [hcons, List.length_cons]; exact hsteps)

/-- A value whose numbers are integers of 64 bits is read back. -/
theorem readsBack {v : Value} (h : Integral v) : ReadsBack v := by
  induction h with
  | null => exact .of_succ (begins_chars .null) fun _ _ _ _ => rfl
  | bool b => exact .of_succ (begins_chars (.bool b)) fun _ _ _ _ => by cases b <;> rfl
  | @int n hlow hhigh =>
    refine .of_succ (begins_chars (.int hlow hhigh)) fun steps rest hrest _ => ?_
    have hread := readNumber?_intChars hrest hlow hhigh
    obtain ⟨c, t, hcons, hlead⟩ := exists_intChars_eq_cons n
    rw [hcons] at hread
    rw [Value.chars, hcons]
    exact (readValue?_number hlead).trans hread
  | str s =>
    refine .of_succ (begins_chars (.str s)) fun steps rest _ _ => ?_
    have hread := readString?_literalChars s rest
    rw [Value.chars]
    unfold literalChars at hread ⊢
    rw [List.cons_append, List.cons_append] at hread ⊢
    rw [readValue?, dropBlanks_cons (by decide)]
    simp only [hread, Option.map_some]
  | @arr vs hvs ih =>
    refine .of_succ (begins_chars (.arr hvs)) fun steps rest _ hsteps => ?_
    rw [Value.chars, elementChars_eq_map] at hsteps ⊢
    cases vs with
    | nil => rfl
    | cons v vs =>
      simp only [List.cons_append, List.length_cons, List.length_append] at hsteps
      have hbegins : Begins (commas ((v :: vs).map Value.chars)) :=
        (begins_chars (hvs v List.mem_cons_self)).commas (vs.map Value.chars)
      rw [List.cons_append, List.cons_append, List.append_assoc, List.singleton_append,
        readValue?_array (hbegins.append _),
        readElements?_commas (fun w hw => ih w hw) steps (by omega) rest, Option.map_some]
  | @obj ms hms ih =>
    refine .of_succ (begins_chars (.obj hms)) fun steps rest _ hsteps => ?_
    rw [Value.chars, memberChars_eq_map] at hsteps ⊢
    cases ms with
    | nil => rfl
    | cons m ms =>
      simp only [List.cons_append, List.length_cons, List.length_append] at hsteps
      have hbegins : Begins (commas ((m :: ms).map pairChars)) :=
        (begins_pairChars m).commas (ms.map pairChars)
      rw [List.cons_append, List.cons_append, List.append_assoc, List.singleton_append,
        readValue?_object (hbegins.append _),
        readMembers?_commas (fun n hn => ih n hn) steps (by omega) rest, Option.map_some]

/-- The text of a value whose numbers are integers of 64 bits is read as the value. -/
theorem read?_text {v : Value} (h : Integral v) : Value.read? v.text = some v := by
  have hread := readsBack h (2 * v.chars.length + 2) [] follows_nil (by omega)
  rw [List.append_nil] at hread
  have htext : v.text.toList = v.chars := String.toList_ofList
  rw [Value.read?, htext]
  simp only [hread]
  rfl

end FunctionHost.Json
