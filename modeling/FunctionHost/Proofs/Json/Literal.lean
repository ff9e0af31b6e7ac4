import FunctionHost.Json.Reader
/-!
# String literals

A string literal has no character below U+0020 (`le_of_mem_literal`), so it stays on one line
whatever it holds. Main statements: `readString?_literal`, a literal at the start of a text is read
as the string that it was made of, and nothing after it is touched; and `isLiteral_literal`, it ends
where it was meant to end and nowhere before.
-/

namespace FunctionHost.Json

open FunctionHost.Text

/-! ### One character -/

/-- What is written of a character. The control characters with a letter of their own are those for
which `escapes` has one. -/
theorem escape_cases (c : Char) :
    (∃ a, escape c = ['\\', a] ∧ a ≠ 'u' ∧ escapes.lookup a = some c ∧ 0x20 ≤ a.toNat) ∨
      (c.toNat < 0x20 ∧ escape c = '\\' :: 'u' :: hex4 c.toNat) ∨
      (c ≠ '\x22' ∧ c ≠ '\\' ∧ 0x20 ≤ c.toNat ∧ escape c = [c]) := by
  by_cases h₁ : c = '\x22'
  · exact .inl ⟨'\x22', by rw [h₁]; decide⟩
  by_cases h₂ : c = '\\'
  · exact .inl ⟨'\\', by rw [h₂]; decide⟩
  by_cases h₃ : c = '\x08'
  · exact .inl ⟨'b', by rw [h₃]; decide⟩
  by_cases h₄ : c = '\t'
  · exact .inl ⟨'t', by rw [h₄]; decide⟩
  by_cases h₅ : c = '\n'
  · exact .inl ⟨'n', by rw [h₅]; decide⟩
  by_cases h₆ : c = '\x0c'
  · exact .inl ⟨'f', by rw [h₆]; decide⟩
  by_cases h₇ : c = '\r'
  · exact .inl ⟨'r', by rw [h₇]; decide⟩
  unfold escape
  rw [if_neg h₁, if_neg h₂, if_neg h₃, if_neg h₄, if_neg h₅, if_neg h₆, if_neg h₇]
  by_cases h₈ : c.toNat < 0x20
  · exact .inr (.inl ⟨h₈, if_pos h₈⟩)
  · exact .inr (.inr ⟨h₁, h₂, Nat.le_of_not_lt h₈, if_neg h₈⟩)

/-- The four digits of a control character are read back. -/
theorem hex4?_digits : ∀ n < 0x20, hex4? (digitChar (n / 4096 % 16)) (digitChar (n / 256 % 16))
    (digitChar (n / 16 % 16)) (digitChar (n % 16)) = some n := by
  decide

/-- A character is read back from what is written of it. -/
theorem readChars?_escape (c : Char) (cs : List Char) :
    readChars? (escape c ++ cs) = before c (readChars? cs) := by
  rcases escape_cases c with ⟨a, ha, hu, hlookup, -⟩ | ⟨hc, heq⟩ | ⟨hquote, hslash, hc, heq⟩
  · rw [ha, List.cons_append, List.singleton_append, readChars?]
    · rw [hlookup]
    · rintro _ _ _ _ _ rfl
      exact absurd rfl hu
  · have hlow : isLow c.toNat = false := by simp [isLow]; omega
    have hhigh : isHigh c.toNat = false := by simp [isHigh]; omega
    rw [heq, hex4]
    simp only [List.cons_append, List.nil_append, readChars?, hex4?_digits c.toNat hc, hlow, hhigh,
      Bool.false_eq_true, if_false, Char.ofNat_toNat]
  · rw [heq, List.singleton_append, readChars?, if_neg (Nat.not_lt.2 hc)]
    all_goals simp_all

/-- Nothing that is written of a character is below U+0020. -/
theorem le_of_mem_escape {c z : Char} (h : z ∈ escape c) : 0x20 ≤ z.toNat := by
  have hhex : ∀ n < 0x20, (hex4 n).all (0x20 ≤ ·.toNat) = true := by decide
  rcases escape_cases c with ⟨a, ha, -, -, hle⟩ | ⟨hc, heq⟩ | ⟨-, -, hc, heq⟩
  · rw [ha, List.mem_cons, List.mem_singleton] at h
    rcases h with rfl | rfl
    · decide
    · exact hle
  · rw [heq, List.mem_cons, List.mem_cons] at h
    rcases h with rfl | rfl | h
    · decide
    · decide
    · exact of_decide_eq_true (List.all_eq_true.1 (hhex c.toNat hc) z h)
  · rw [heq, List.mem_singleton] at h
    exact h ▸ hc

theorem before_eq_some_iff {c : Char} {x : Option (List Char × List Char)} {s r : List Char} :
    before c x = some (s, r) ↔ ∃ s', x = some (s', r) ∧ s = c :: s' := by
  cases x with
  | none => simp [before]
  | some p =>
    simp only [before, Option.map_some, Option.some.injEq, Prod.mk.injEq]
    constructor
    · rintro ⟨rfl, rfl⟩
      exact ⟨_, rfl, rfl⟩
    · rintro ⟨s', rfl, rfl⟩
      exact ⟨rfl, rfl⟩

/-- One character more is read before what is read in the same way. -/
theorem before_append {c : Char} {x y : Option (List Char × List Char)} {s r t : List Char}
    (ih : ∀ {s r}, x = some (s, r) → y = some (s, r ++ t)) (h : before c x = some (s, r)) :
    before c y = some (s, r ++ t) := by
  obtain ⟨s', hs, rfl⟩ := before_eq_some_iff.1 h
  exact before_eq_some_iff.2 ⟨s', ih hs, rfl⟩

/-! ### What follows a string -/

/-- The characters of a string do not change with what stands behind it. -/
theorem readChars?_append {cs s r : List Char} (h : readChars? cs = some (s, r))
    (t : List Char) : readChars? (cs ++ t) = some (s, r ++ t) := by
  fun_induction readChars? cs generalizing s r with
  | case2 cs =>
    cases h
    simp [readChars?]
  | case6 a b c d n hn hlow hhigh a' b' c' d' cs m hm hlow' ih =>
    simp only [List.cons_append, readChars?, hn, hlow, hhigh, hm, hlow']
    exact before_append ih h
  | case9 a b c d cs n hn hlow hhigh ih =>
    simp only [List.cons_append, readChars?, hn, hlow, hhigh]
    exact before_append ih h
  | case10 c cs hc d hd ih =>
    rw [List.cons_append, List.cons_append, readChars?]
    · simp only [hd]
      exact before_append ih h
    · -- a `u` without four digits is no letter of its own, so it cannot begin to have them
      rintro a b c' d' cs' rfl -
      have hno : escapes.lookup 'u' = none := by decide
      rw [hno] at hd
      cases hd
  | case14 c cs hquote hu hescape hslash hc ih =>
    have hne : c ≠ '\\' := by
      rintro rfl
      cases cs with
      | nil => exact hslash rfl rfl
      | cons z cs => exact hescape z cs rfl rfl
    rw [List.cons_append, readChars?]
    · rw [if_neg hc]
      exact before_append ih h
    · exact hquote
    all_goals simp [hne]
  | _ => cases h

/-- A string does not change with what stands behind it. -/
theorem readString?_append {cs r : List Char} {s : String} (h : readString? cs = some (s, r))
    (t : List Char) : readString? (cs ++ t) = some (s, r ++ t) := by
  unfold readString? at h ⊢
  split at h
  next cs =>
    obtain ⟨⟨s', r'⟩, hread, heq⟩ := Option.map_eq_some_iff.1 h
    cases heq
    simp [readChars?_append hread]
  next => cases h

/-! ### Literals -/

theorem toList_literal (s : String) : (literal s).toList = literalChars s.toList :=
  String.toList_ofList

/-- A literal is on one line. -/
theorem le_of_mem_literal {s : String} {z : Char} (h : z ∈ (literal s).toList) :
    0x20 ≤ z.toNat := by
  rw [toList_literal, literalChars, List.cons_append, List.mem_cons, List.mem_append,
    List.mem_singleton, List.mem_flatMap] at h
  rcases h with rfl | ⟨c, -, h⟩ | rfl
  · decide
  · exact le_of_mem_escape h
  · decide

theorem readChars?_flatMap_escape (s rest : List Char) :
    readChars? (s.flatMap escape ++ '\x22' :: rest) = some (s, rest) := by
  induction s with
  | nil => rfl
  | cons c s ih =>
    rw [List.flatMap_cons, List.append_assoc, readChars?_escape, ih]
    rfl

/-- A literal is read as the string that it was made of. -/
theorem readString?_literal (s : String) (rest : List Char) :
    readString? ((literal s).toList ++ rest) = some (s, rest) := by
  have hchars := readChars?_flatMap_escape s.toList rest
  rw [toList_literal, literalChars, List.cons_append, List.cons_append, List.append_assoc,
    List.singleton_append, readString?, hchars]
  simp

/-- A text is one string literal from its first character to its last. -/
structure IsLiteral (text : List Char) (s : String) : Prop where
  /-- It is read as the string, and nothing is left. -/
  read : readString? text = some (s, [])
  /-- No beginning of it is a literal that has ended. -/
  whole : ∀ t rest, text = t ++ rest → (readString? t).isSome = true → rest = []
  /-- It is on one line. -/
  printable : ∀ z ∈ text, 0x20 ≤ z.toNat

theorem isLiteral_literal (s : String) : IsLiteral (literal s).toList s := by
  have hread := readString?_literal s []
  rw [List.append_nil] at hread
  refine ⟨hread, ?_, fun z => le_of_mem_literal⟩
  intro t rest htext ht
  obtain ⟨⟨s', r⟩, hr⟩ := Option.isSome_iff_exists.1 ht
  rw [htext, readString?_append hr rest] at hread
  exact (List.append_eq_nil_iff.1 (congrArg Prod.snd (Option.some.inj hread))).2

theorem literal_inj {s t : String} (h : literal s = literal t) : s = t := by
  have hs := readString?_literal s []
  rw [h, readString?_literal t []] at hs
  exact congrArg Prod.fst (Option.some.inj hs.symm)

end FunctionHost.Json
