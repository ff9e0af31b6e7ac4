import FunctionHost.Proofs.Text.Utf8
import Mathlib.Data.List.Lex
/-!
# The order of texts

Texts are ordered by their code points. Main statement: `encode_lt_encode`, this is the order of
their bytes.
-/

namespace FunctionHost.Text.Utf8

section

variable {m n : Nat}

theorem ofNat_lt_ofNat_iff (hm : m < 256) (hn : n < 256) :
    UInt8.ofNat m < UInt8.ofNat n ↔ m < n := by
  rw [UInt8.lt_iff_toNat_lt, toNat_ofNat_of_lt hm, toNat_ofNat_of_lt hn]

theorem ofNat_eq_ofNat_iff (hm : m < 256) (hn : n < 256) :
    UInt8.ofNat m = UInt8.ofNat n ↔ m = n := by
  rw [← UInt8.toNat_inj, toNat_ofNat_of_lt hm, toNat_ofNat_of_lt hn]

end

/-- A lesser character has lesser bytes, whatever follows. -/
theorem encodeChar_append_lt {c d : Char} (h : c < d) (as bs : List UInt8) :
    String.utf8EncodeChar c ++ as < String.utf8EncodeChar d ++ bs := by
  have hd : d.val.toNat < 0x110000 := by
    rcases d.valid with h | h <;> omega
  have hlt : c.val.toNat < d.val.toNat := h
  unfold String.utf8EncodeChar
  dsimp only
  generalize c.val.toNat = m at *
  generalize d.val.toNat = n at *
  have hm₂ : m / 64 / 64 = m / 4096 := Nat.div_div_eq_div_mul m 64 64
  have hm₃ : m / 4096 / 64 = m / 262144 := Nat.div_div_eq_div_mul m 4096 64
  have hm₄ : m / 262144 % 8 = m / 262144 := Nat.mod_eq_of_lt (by omega)
  have hn₂ : n / 64 / 64 = n / 4096 := Nat.div_div_eq_div_mul n 64 64
  have hn₃ : n / 4096 / 64 = n / 262144 := Nat.div_div_eq_div_mul n 4096 64
  have hn₄ : n / 262144 % 8 = n / 262144 := Nat.mod_eq_of_lt (by omega)
  -- with as many bytes each, the first that differs decides; the one with fewer has a lesser first
  split_ifs <;>
    simp (disch := omega) only [List.cons_append, List.nil_append, List.cons_lt_cons_iff,
      ofNat_lt_ofNat_iff, ofNat_eq_ofNat_iff] <;> omega

theorem encode_ne_nil {c : Char} {s : List Char} : encode (c :: s) ≠ [] := by
  rw [encode, List.flatMap_cons]
  exact List.append_ne_nil_of_left_ne_nil String.utf8EncodeChar_ne_nil _

/-- A lesser text has lesser bytes. -/
theorem encode_lt_encode {s t : List Char} (h : s < t) : encode s < encode t := by
  induction s generalizing t with
  | nil =>
    cases t with
    | nil => exact absurd h (List.lt_irrefl _)
    | cons d t =>
      cases hb : encode (d :: t) with
      | nil => exact absurd hb encode_ne_nil
      | cons b bs => exact List.nil_lt_cons b bs
  | cons c s ih =>
    cases t with
    | nil => cases h
    | cons d t =>
      unfold encode
      rw [List.flatMap_cons, List.flatMap_cons]
      rcases List.cons_lt_cons_iff.1 h with hlt | ⟨rfl, hlt⟩
      · exact encodeChar_append_lt hlt _ _
      · exact List.append_left_lt (ih hlt)

end FunctionHost.Text.Utf8
