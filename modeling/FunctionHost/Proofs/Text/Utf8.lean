import FunctionHost.Text.Utf8
/-!
# Reading back what was encoded

Main statements: `decodeLossy_encode`, the bytes of a text are read as that text, and
`exists_prefix_of_prefix`, the first bytes of a text are read as a beginning of it, with at most one
U+FFFD after it for a character that is cut.
-/

namespace FunctionHost.Text.Utf8

/-! ### One character -/

theorem opening_two {n : Nat} (h : 2 ≤ n) (h' : n < 32) :
    opening (n + 0xC0) = .opens ⟨0, 0x80, 0xBF, n⟩ := by
  unfold opening
  rw [if_neg (by omega), if_neg (by omega), if_pos (by omega), Nat.add_sub_cancel]

theorem opening_three : ∀ n < 16, opening (n + 0xE0) =
    .opens ⟨1, if n = 0 then 0xA0 else 0x80, if n = 13 then 0x9F else 0xBF, n⟩ := by
  decide

theorem opening_four : ∀ n < 5, opening (n + 0xF0) =
    .opens ⟨2, if n = 0 then 0x90 else 0x80, if n = 4 then 0x8F else 0xBF, n⟩ := by
  decide

section

variable {p : Partial} {n : Nat}

theorem toNat_ofNat_of_lt (h : n < 256) : (UInt8.ofNat n).toNat = n := by
  rw [UInt8.toNat_ofNat']
  exact Nat.mod_eq_of_lt h

theorem step_opens (hn : n < 256) (h : opening n = .opens p) :
    step none (UInt8.ofNat n) = ([], some p) := by
  unfold step
  rw [toNat_ofNat_of_lt hn]
  simp only [stepFirst, h]

/-- A byte that goes on with a character but does not complete it. -/
theorem step_more {m : Nat} (hn : n < 64) (hlow : p.low ≤ n + 0x80) (hhigh : n + 0x80 ≤ p.high)
    (hm : p.more = m + 1) :
    step (some p) (UInt8.ofNat (n + 0x80)) = ([], some ⟨m, 0x80, 0xBF, p.value * 64 + n⟩) := by
  unfold step
  rw [toNat_ofNat_of_lt (by omega)]
  simp only [hlow, hhigh, hm, and_self, if_true, Nat.add_sub_cancel]

/-- A byte that completes a character. -/
theorem step_last (hn : n < 64) (hlow : p.low ≤ n + 0x80) (hhigh : n + 0x80 ≤ p.high)
    (hm : p.more = 0) :
    step (some p) (UInt8.ofNat (n + 0x80)) = ([Char.ofNat (p.value * 64 + n)], none) := by
  unfold step
  rw [toNat_ofNat_of_lt (by omega)]
  simp only [hlow, hhigh, hm, and_self, if_true, Nat.add_sub_cancel]

end

theorem decodeFrom_cons (s : State) (b : UInt8) (bs : List UInt8) :
    decodeFrom s (b :: bs) = (step s b).1 ++ decodeFrom (step s b).2 bs := rfl

/-- The bytes of a character are read as the character. -/
theorem decodeFrom_encodeChar (c : Char) (bs : List UInt8) :
    decodeFrom none (String.utf8EncodeChar c ++ bs) = c :: decodeFrom none bs := by
  have hvalid : c.val.toNat < 0xD800 ∨ 0xDFFF < c.val.toNat ∧ c.val.toNat < 0x110000 := c.valid
  have hc : Char.ofNat c.val.toNat = c := Char.ofNat_toNat c
  unfold String.utf8EncodeChar
  dsimp only
  generalize c.val.toNat = v at *
  by_cases h₁ : v ≤ 0x7f
  · have hopening : opening v = .whole (Char.ofNat v) := if_pos (by omega)
    rw [if_pos h₁, List.singleton_append, decodeFrom_cons]
    simp only [step, stepFirst, toNat_ofNat_of_lt (by omega : v < 256), hopening, hc]
    rfl
  rw [if_neg h₁]
  by_cases h₂ : v ≤ 0x7ff
  · rw [if_pos h₂, List.cons_append, List.singleton_append, decodeFrom_cons,
      step_opens (by omega) (opening_two (by omega) (by omega)), decodeFrom_cons,
      step_last (by omega) (by dsimp only; omega) (by dsimp only; omega) rfl,
      show v / 64 % 32 * 64 + v % 64 = v by omega, hc]
    rfl
  rw [if_neg h₂]
  by_cases h₃ : v ≤ 0xffff
  · rw [if_pos h₃, List.cons_append, List.cons_append, List.singleton_append, decodeFrom_cons,
      step_opens (by omega) (opening_three _ (by omega)), decodeFrom_cons,
      step_more (by omega) (by dsimp only; split <;> omega) (by dsimp only; split <;> omega) rfl,
      decodeFrom_cons, step_last (by omega) (by dsimp only; omega) (by dsimp only; omega) rfl,
      show (v / 4096 % 16 * 64 + v / 64 % 64) * 64 + v % 64 = v by omega, hc]
    rfl
  · rw [if_neg h₃, List.cons_append, List.cons_append, List.cons_append, List.singleton_append,
      decodeFrom_cons, show v / 262144 % 8 = v / 262144 by omega,
      step_opens (by omega) (opening_four _ (by omega)), decodeFrom_cons,
      step_more (by omega) (by dsimp only; split <;> omega) (by dsimp only; split <;> omega) rfl,
      decodeFrom_cons, step_more (by omega) (by dsimp only; omega) (by dsimp only; omega) rfl,
      decodeFrom_cons, step_last (by omega) (by dsimp only; omega) (by dsimp only; omega) rfl,
      show ((v / 262144 * 64 + v / 4096 % 64) * 64 + v / 64 % 64) * 64 + v % 64 = v by omega, hc]
    rfl

/-- Only a newline has the byte of a newline. -/
theorem eq_newline_of_mem {c : Char} (h : 10 ∈ String.utf8EncodeChar c) : c = '\n' := by
  have hbyte : ∀ n < 256, UInt8.ofNat n = 10 → n = 10 := fun n hn he => by
    rw [← toNat_ofNat_of_lt hn, he]
    rfl
  have hvalid : c.val.toNat < 0x110000 := by
    rcases c.valid with h | h <;> omega
  have hc : Char.ofNat c.val.toNat = c := Char.ofNat_toNat c
  unfold String.utf8EncodeChar at h
  dsimp only at h
  generalize c.val.toNat = v at *
  split at h
  next hv =>
    have hten := hbyte v (by omega) (List.mem_singleton.1 h).symm
    rw [← hc, hten]
  next =>
    -- every other byte is at least 0x80
    split at h
    next =>
      simp only [List.mem_cons, List.not_mem_nil, or_false] at h
      rcases h with h | h <;>
        · have := hbyte _ (by omega) h.symm
          omega
    next =>
      split at h
      next =>
        simp only [List.mem_cons, List.not_mem_nil, or_false] at h
        rcases h with h | h | h <;>
          · have := hbyte _ (by omega) h.symm
            omega
      next =>
        simp only [List.mem_cons, List.not_mem_nil, or_false] at h
        rcases h with h | h | h | h <;>
          · have := hbyte _ (by omega) h.symm
            omega

/-! ### Texts -/

/-- A character of ASCII is one byte. -/
theorem encode_cons_of_lt {c : Char} (h : c.toNat < 0x80) (s : List Char) :
    encode (c :: s) = UInt8.ofNat c.toNat :: encode s := by
  have hc : String.utf8EncodeChar c = [UInt8.ofNat c.toNat] := by
    unfold String.utf8EncodeChar
    exact if_pos (Nat.le_of_lt_succ h)
  rw [encode, List.flatMap_cons, hc]
  rfl

/-- The bytes of a text are read as that text. -/
@[simp] theorem decodeLossy_encode (cs : List Char) : decodeLossy (encode cs) = cs := by
  unfold decodeLossy encode
  induction cs with
  | nil => rfl
  | cons c cs ih => rw [List.flatMap_cons, decodeFrom_encodeChar, ih]

/-- The first bytes are read as a beginning of the text, with at most one U+FFFD after it. -/
theorem exists_prefix_of_prefix (s : State) {as bs : List UInt8} (h : as <+: bs) :
    ∃ cs, cs <+: decodeFrom s bs ∧
      (decodeFrom s as = cs ∨ decodeFrom s as = cs ++ [replacement]) := by
  induction as generalizing s bs with
  | nil =>
    refine ⟨[], List.nil_prefix, ?_⟩
    cases s with
    | none => exact .inl rfl
    | some p => exact .inr rfl
  | cons a as ih =>
    obtain ⟨rest, rfl⟩ := h
    obtain ⟨cs, hcs, hread⟩ := ih (step s a).2 (List.prefix_append as rest)
    refine ⟨(step s a).1 ++ cs, ?_, ?_⟩
    · rw [List.cons_append, decodeFrom_cons]
      exact (List.prefix_append_right_inj _).2 hcs
    · rw [decodeFrom_cons, List.append_assoc]
      exact hread.imp (congrArg _) (congrArg _)

end FunctionHost.Text.Utf8
