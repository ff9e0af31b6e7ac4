import FunctionHost.Text.Digits
import Mathlib.Tactic.SplitIfs
/-!
# Reading back what was written in base ten

Main statements: `read?_decimal`, the digits of a number are read as the number, and
`read?_eq_some_iff`, which texts are read as which numbers.
-/

namespace FunctionHost.Text

/-! ### Digits -/

theorem digitValue?_digitChar : ∀ d < 10, digitValue? 10 (digitChar d) = some d := by
  decide

theorem digits_of_lt {n : Nat} (h : n < 10) : digits 10 n = [digitChar n] := by
  rw [digits, dif_pos (.inr h)]

theorem digits_of_ge {n : Nat} (h : 10 ≤ n) :
    digits 10 n = digits 10 (n / 10) ++ [digitChar (n % 10)] := by
  rw [digits, dif_neg (by omega)]

/-- The characters of a number are digits. -/
theorem exists_of_mem_decimal {n : Nat} {c : Char} (h : c ∈ decimal n) :
    ∃ d < 10, c = digitChar d := by
  unfold decimal at h
  induction n using Nat.strongRecOn with
  | _ n ih =>
    by_cases hn : n < 10
    · rw [digits_of_lt hn] at h
      exact ⟨n, hn, List.mem_singleton.1 h⟩
    · rw [digits_of_ge (Nat.le_of_not_lt hn), List.mem_append, List.mem_singleton] at h
      rcases h with h | rfl
      · exact ih (n / 10) (Nat.div_lt_self (by omega) (by omega)) h
      · exact ⟨n % 10, Nat.mod_lt _ (by omega), rfl⟩

theorem decimal_ne_nil (n : Nat) : decimal n ≠ [] := by
  unfold decimal
  by_cases hn : n < 10
  · rw [digits_of_lt hn]
    exact List.cons_ne_nil _ _
  · rw [digits_of_ge (Nat.le_of_not_lt hn)]
    exact List.append_ne_nil_of_right_ne_nil _ (List.cons_ne_nil _ _)

/-- The digits of a number are those of its usual text. -/
theorem decimal_eq_toDigits (n : Nat) : decimal n = Nat.toDigits 10 n := by
  have hdigit : ∀ d < 10, digitChar d = Nat.digitChar d := by decide
  unfold decimal
  induction n using Nat.strongRecOn with
  | _ n ih =>
    by_cases hn : n < 10
    · rw [digits_of_lt hn, Nat.toDigits_of_lt_base hn, hdigit n hn]
    · have hge := Nat.le_of_not_lt hn
      rw [digits_of_ge hge, Nat.toDigits_of_base_le (by decide) hge,
        ih (n / 10) (Nat.div_lt_self (by omega) (by decide)), hdigit _ (Nat.mod_lt _ (by decide))]

theorem ofList_decimal (n : Nat) : String.ofList (decimal n) = toString n := by
  rw [decimal_eq_toDigits]
  rfl

/-! ### Reading -/

theorem readFrom?_append (base v : Nat) (s t : List Char) :
    readFrom? base v (s ++ t) = (readFrom? base v s).bind fun w => readFrom? base w t := by
  induction s generalizing v with
  | nil => rfl
  | cons c s ih =>
    rw [List.cons_append, readFrom?, readFrom?]
    cases digitValue? base c with
    | none => rfl
    | some d => exact ih _

theorem readFrom?_digitChar {d : Nat} (v : Nat) (h : d < 10) :
    readFrom? 10 v [digitChar d] = some (v * 10 + d) := by
  rw [readFrom?, digitValue?_digitChar d h]
  rfl

theorem readFrom?_decimal (n : Nat) : readFrom? 10 0 (decimal n) = some n := by
  unfold decimal
  induction n using Nat.strongRecOn with
  | _ n ih =>
    by_cases hn : n < 10
    · rw [digits_of_lt hn, readFrom?_digitChar 0 hn, Nat.zero_mul, Nat.zero_add]
    · rw [digits_of_ge (Nat.le_of_not_lt hn), readFrom?_append,
        ih (n / 10) (Nat.div_lt_self (by omega) (by omega)), Option.bind_some,
        readFrom?_digitChar _ (Nat.mod_lt _ (by omega)), Nat.div_add_mod']

/-- The digits of a number are read as the number. -/
theorem read?_decimal (n : Nat) : read? 10 (decimal n) = some n := by
  have hread := readFrom?_decimal n
  cases hs : decimal n with
  | nil => exact absurd hs (decimal_ne_nil n)
  | cons c s => rwa [hs] at hread

theorem decimal_inj {m n : Nat} (h : decimal m = decimal n) : m = n := by
  have hread := read?_decimal m
  rw [h, read?_decimal] at hread
  exact (Option.some.inj hread).symm

/-! ### What is read -/

theorem digitValue?_eq_some_iff {c : Char} {d : Nat} :
    digitValue? 10 c = some d ↔ c.isDigit = true ∧ c.toNat - '0'.toNat = d := by
  have hdigit : c.isDigit = true ↔ 48 ≤ c.toNat ∧ c.toNat ≤ 57 := by
    simp only [Char.isDigit, ge_iff_le, Bool.and_eq_true, decide_eq_true_eq]
    exact Iff.rfl
  have hzero : '0'.toNat = 48 := rfl
  rw [hdigit, hzero]
  unfold digitValue?
  simp only [Option.ite_none_right_eq_some, Option.some.injEq]
  split_ifs <;> omega

theorem readFrom?_eq_some_iff {s : List Char} {v n : Nat} : readFrom? 10 v s = some n ↔
    (∀ c ∈ s, c.isDigit = true) ∧ Nat.ofDigitChars 10 s v = n := by
  induction s generalizing v with
  | nil => simp [readFrom?]
  | cons c s ih =>
    rw [readFrom?, List.forall_mem_cons, Nat.ofDigitChars_cons]
    cases hc : digitValue? 10 c with
    | none =>
      have hno : c.isDigit ≠ true := fun h => by
        rw [digitValue?_eq_some_iff.2 ⟨h, rfl⟩] at hc
        cases hc
      simp [hno]
    | some d =>
      obtain ⟨hdigit, rfl⟩ := digitValue?_eq_some_iff.1 hc
      simp only [ih, hdigit, true_and, Nat.mul_comm 10 v]

/-- A text is read as a number if it is one or more digits, however many, and these are the number
in base ten. -/
theorem read?_eq_some_iff {s : List Char} {n : Nat} : read? 10 s = some n ↔
    s ≠ [] ∧ (∀ c ∈ s, c.isDigit = true) ∧ Nat.ofDigitChars 10 s 0 = n := by
  cases s with
  | nil => simp [read?]
  | cons c s => simp [read?, readFrom?_eq_some_iff]

end FunctionHost.Text
