import FunctionHost.Json.Reader
import FunctionHost.Proofs.Text.Digits
/-!
# Reading integers

A number has no mark at its end. It ends where the text cannot go on with it: the next character is
no digit, no point and no letter of an exponent (`Follows`). An integer that fits into 64 bits is
read from its digits up to there; a greater one would be rounded.

Main statement: `readNumber?_intChars`.
-/

namespace FunctionHost.Json

open FunctionHost.Text

/-- The text does not go on with a number that stands before it. -/
def Follows (rest : List Char) : Prop :=
  ∀ c ∈ rest.head?, isDigit c = false ∧ c ≠ '.' ∧ c ≠ 'e' ∧ c ≠ 'E'

theorem follows_nil : Follows [] := by simp [Follows]

theorem follows_cons {c : Char} (h : isDigit c = false ∧ c ≠ '.' ∧ c ≠ 'e' ∧ c ≠ 'E')
    (rest : List Char) : Follows (c :: rest) := by
  simpa [Follows] using h

/-! ### Digits -/

theorem digitOf_digitChar {d : Nat} (h : d < 10) : digitOf (digitChar d) = d := by
  rw [digitOf, digitValue?_digitChar d h, Option.getD_some]

theorem isDigit_of_mem_decimal {n : Nat} {c : Char} (h : c ∈ decimal n) : isDigit c = true := by
  obtain ⟨d, hd, rfl⟩ := exists_of_mem_decimal h
  rw [isDigit, digitValue?_digitChar d hd, Option.isSome_some]

theorem decimal_of_lt {n : Nat} (h : n < 10) : decimal n = [digitChar n] := digits_of_lt h

theorem decimal_of_ge {n : Nat} (h : 10 ≤ n) :
    decimal n = decimal (n / 10) ++ [digitChar (n % 10)] := digits_of_ge h

theorem exists_decimal_eq_cons (n : Nat) : ∃ c s, decimal n = c :: s ∧ isDigit c = true := by
  cases hd : decimal n with
  | nil => exact absurd hd (decimal_ne_nil n)
  | cons c s => exact ⟨c, s, rfl, isDigit_of_mem_decimal (hd ▸ List.mem_cons_self)⟩

/-- Only the number zero begins with a zero. -/
theorem decimal_ne_zero_cons {n : Nat} (h : n ≠ 0) (t : List Char) : decimal n ≠ '0' :: t := by
  have hdigit : ∀ d < 10, d ≠ 0 → digitChar d ≠ '0' := by decide
  induction n using Nat.strongRecOn generalizing t with
  | _ n ih =>
    by_cases hn : n < 10
    · rw [decimal_of_lt hn]
      exact fun heq => hdigit n hn h (List.cons.inj heq).1
    · have hge := Nat.le_of_not_lt hn
      intro heq
      obtain ⟨c, s, hd, -⟩ := exists_decimal_eq_cons (n / 10)
      rw [decimal_of_ge hge, hd, List.cons_append, List.cons.injEq] at heq
      exact ih (n / 10) (by omega) (by omega) s (by rw [hd, heq.1])

/-- Digits that fit into 64 bits are taken as they are. -/
theorem takeWhole_decimal {n : Nat} (h : n ≤ maxWord) : takeWhole (decimal n) = ⟨n, 0⟩ := by
  unfold takeWhole
  induction n using Nat.strongRecOn with
  | _ n ih =>
    by_cases hn : n < 10
    · rw [decimal_of_lt hn, List.foldl_cons, List.foldl_nil, digitOf_digitChar hn]
      simp [h]
    · have hge := Nat.le_of_not_lt hn
      have hdigit := digitOf_digitChar (Nat.mod_lt n (by decide : 0 < 10))
      have hvalue : n / 10 * 10 + n % 10 = n := Nat.div_add_mod' n 10
      rw [decimal_of_ge hge, List.foldl_append, ih (n / 10) (by omega) (by omega),
        List.foldl_cons, List.foldl_nil]
      simp only [hdigit, hvalue, h, and_self, if_true]

/-- An integer of 64 bits is not rounded. -/
theorem numberOf?_decimal {n : Int} (hlow : -(Nat.pow 2 63 : Int) ≤ n) (hhigh : n ≤ maxWord) :
    numberOf? (decide (n < 0)) (decimal n.natAbs) none none = some (.int n) := by
  have hmax : maxWord = 18446744073709551615 := rfl
  have hpow : Nat.pow 2 63 = 9223372036854775808 := rfl
  have hwhole : takeWhole (decimal n.natAbs) = ⟨n.natAbs, 0⟩ := takeWhole_decimal (by omega)
  simp only [numberOf?, hwhole, ne_eq, not_true_eq_false, if_false]
  by_cases hneg : n < 0
  · have habs : -(n.natAbs : Int) = n := by omega
    rw [if_neg (by simp [hneg]), if_neg (by omega), habs]
  · have habs : (n.natAbs : Int) = n := by omega
    rw [if_pos (by simp [hneg]), habs]

/-! ### Where an integer begins and ends -/

/-- The first character of a number. -/
def Leads (c : Char) : Prop := isDigit c = true ∨ c = '-'

theorem Leads.ne {c d : Char} (h : Leads c) (hd : isDigit d = false) (hsign : d ≠ '-') :
    c ≠ d := by
  rintro rfl
  rcases h with h | h
  · rw [hd] at h
    cases h
  · exact hsign h

theorem exists_intChars_eq_cons (n : Int) : ∃ c s, intChars n = c :: s ∧ Leads c := by
  unfold intChars
  split
  · exact ⟨'-', _, rfl, .inr rfl⟩
  · obtain ⟨c, s, hd, hdigit⟩ := exists_decimal_eq_cons n.natAbs
    exact ⟨c, s, hd, .inl hdigit⟩

theorem le_of_mem_intChars {n : Int} {z : Char} (h : z ∈ intChars n) : 0x20 ≤ z.toNat := by
  have hdigit : ∀ d < 10, 0x20 ≤ (digitChar d).toNat := by decide
  have hdecimal : ∀ z ∈ decimal n.natAbs, 0x20 ≤ z.toNat := by
    intro z hz
    obtain ⟨d, hd, rfl⟩ := exists_of_mem_decimal hz
    exact hdigit d hd
  unfold intChars at h
  split at h
  · rcases List.mem_cons.1 h with rfl | h
    · decide
    · exact hdecimal z h
  · exact hdecimal z h

section

variable {rest : List Char} (h : Follows rest)
include h

theorem takeWhile_decimal (n : Nat) : (decimal n ++ rest).takeWhile isDigit = decimal n := by
  rw [List.takeWhile_append_of_pos fun c => isDigit_of_mem_decimal]
  cases rest with
  | nil => simp
  | cons c rest => rw [List.takeWhile_cons_of_neg (by simp [(h c rfl).1]), List.append_nil]

theorem dropWhile_decimal (n : Nat) : (decimal n ++ rest).dropWhile isDigit = rest := by
  rw [List.dropWhile_append_of_pos fun c => isDigit_of_mem_decimal]
  cases rest with
  | nil => rfl
  | cons c rest => exact List.dropWhile_cons_of_neg (by simp [(h c rfl).1])

theorem readWhole?_decimal (n : Nat) :
    readWhole? (decimal n ++ rest) = some (decimal n, rest) := by
  by_cases hn : n = 0
  · subst hn
    have hzero : decimal 0 = ['0'] := decimal_of_lt (by decide)
    have hnext : ¬ rest.head?.any isDigit = true := by
      cases rest with
      | nil => simp
      | cons c rest => simp [(h c rfl).1]
    rw [hzero, List.cons_append, List.nil_append, readWhole?, if_neg hnext]
  · unfold readWhole?
    split
    next t heq =>
      obtain ⟨c, s, hd, -⟩ := exists_decimal_eq_cons n
      rw [hd, List.cons_append, List.cons.injEq] at heq
      exact absurd (hd.trans (by rw [heq.1])) (decimal_ne_zero_cons hn s)
    next =>
      simp only [takeWhile_decimal h, dropWhile_decimal h]
      rw [if_neg (by simp [decimal_ne_nil])]

theorem readFraction?_of_follows : readFraction? rest = some (none, rest) := by
  cases rest with
  | nil => rfl
  | cons c rest => simp [readFraction?, (h c rfl).2.1]

theorem readExponent?_of_follows : readExponent? rest = some (none, rest) := by
  cases rest with
  | nil => rfl
  | cons c rest =>
    obtain ⟨-, -, hsmall, hgreat⟩ := h c rfl
    simp [readExponent?, hsmall, hgreat]

/-- An integer of 64 bits, with a sign or without, is read from its text. -/
theorem readNumber?_intChars {n : Int} (hlow : -(Nat.pow 2 63 : Int) ≤ n) (hhigh : n ≤ maxWord) :
    readNumber? (intChars n ++ rest) = some (.int n, rest) := by
  have hnumber := numberOf?_decimal hlow hhigh
  have hwhole := readWhole?_decimal h n.natAbs
  unfold intChars
  split
  next hneg =>
    rw [decide_eq_true hneg] at hnumber
    rw [List.cons_append, readNumber?]
    simp [hwhole, readFraction?_of_follows h, readExponent?_of_follows h, hnumber]
  next hpos =>
    obtain ⟨c, s, hd, hdigit⟩ := exists_decimal_eq_cons n.natAbs
    rw [decide_eq_false hpos] at hnumber
    rw [hd] at hwhole hnumber ⊢
    rw [List.cons_append] at hwhole ⊢
    rw [readNumber?]
    · simp [hwhole, readFraction?_of_follows h, readExponent?_of_follows h, hnumber]
    · -- A digit is not a minus sign.
      intro t heq
      rw [(List.cons.inj heq).1] at hdigit
      cases hdigit

end

end FunctionHost.Json
