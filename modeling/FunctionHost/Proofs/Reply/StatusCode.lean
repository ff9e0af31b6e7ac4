import FunctionHost.Proofs.Text.Blank
import FunctionHost.Proofs.Text.Digits
import FunctionHost.Reply.Decoder
import Mathlib.Logic.ExistsUnique
/-!
# The code in a status line

What follows the tag of a status line is stripped of blanks and semicolons in three steps, which
leave exactly one text (`Remains`). It is a code if it is a `Numeral`, with any number of zeros in
front, from 100 to 999.

Main statement: `reads_status_code`, which texts denote which status. Numbers beyond sixteen bits
are given up, and no code is that great.
-/

namespace FunctionHost

open FunctionHost.Http FunctionHost.Text

/-! ### The grammar -/

/-- What remains when the characters at the end that satisfy `f` are removed. -/
structure EndRemoved (f : Char → Bool) (s r : List Char) : Prop where
  /-- Only such characters are removed. -/
  removed : ∃ t, s = r ++ t ∧ ∀ z ∈ t, f z = true
  /-- All of them are. -/
  kept : ∀ z ∈ r.getLast?, f z = false

/-- What remains when the characters at the start that satisfy `f` are removed. -/
structure StartRemoved (f : Char → Bool) (s r : List Char) : Prop where
  /-- Only such characters are removed. -/
  removed : ∃ t, s = t ++ r ∧ ∀ z ∈ t, f z = true
  /-- All of them are. -/
  kept : ∀ z ∈ r.head?, f z = false

/-- What remains of the rest of a status line: blanks at its end are removed, then semicolons at
the new end, then blanks at both ends of what is left. -/
def Remains (text r : List Char) : Prop :=
  ∃ s t u, EndRemoved isBlank text s ∧ EndRemoved (· == ';') s t ∧ StartRemoved isBlank t u ∧
    EndRemoved isBlank u r

/-- A number in base ten: a plus sign or none, then one or more digits. -/
def Numeral (s : List Char) (n : Nat) : Prop :=
  ∃ ds, (s = ds ∨ s = '+' :: ds) ∧ ds ≠ [] ∧ (∀ c ∈ ds, c.isDigit = true) ∧
    Nat.ofDigitChars 10 ds 0 = n

section

variable {f : Char → Bool} {s r text : List Char} {n : Nat}

/-! ### What remains -/

theorem endRemoved_iff : EndRemoved f s r ↔ dropEndWhile f s = r := by
  rw [dropEndWhile_eq_iff]
  exact ⟨fun ⟨h, h'⟩ => ⟨h, h'⟩, fun ⟨h, h'⟩ => ⟨h, h'⟩⟩

theorem startRemoved_iff : StartRemoved f s r ↔ s.dropWhile f = r := by
  rw [dropWhile_eq_iff]
  exact ⟨fun ⟨h, h'⟩ => ⟨h, h'⟩, fun ⟨h, h'⟩ => ⟨h, h'⟩⟩

theorem remains_iff : Remains text r ↔
    trim (dropEndWhile (· == ';') (trimEnd text)) = r := by
  simp only [Remains, endRemoved_iff, startRemoved_iff, trim, trimEnd]
  constructor
  · rintro ⟨_, _, _, rfl, rfl, rfl, h⟩
    exact h
  · intro h
    exact ⟨_, _, _, rfl, rfl, rfl, h⟩

/-! ### Numerals -/

/-- A numeral is what is read. A sign that stands before the digits is none of them. -/
theorem numeral_iff : Numeral s n ↔ read? 10 ((after? ['+'] s).getD s) = some n := by
  rw [read?_eq_some_iff]
  constructor
  · rintro ⟨ds, hs, hne, hdigits, hn⟩
    have hrest : (after? ['+'] s).getD s = ds := by
      rcases hs with rfl | rfl
      · have hnone : after? ['+'] s = none := by
          refine Option.eq_none_iff_forall_ne_some.2 fun t ht => ?_
          rw [after?_eq_some_iff] at ht
          have hplus := hdigits '+' (ht ▸ List.mem_cons_self)
          cases hplus
        rw [hnone, Option.getD_none]
      · rfl
    rw [hrest]
    exact ⟨hne, hdigits, hn⟩
  · intro h
    refine ⟨_, ?_, h⟩
    cases ha : after? ['+'] s with
    | none => exact .inl rfl
    | some t => exact .inr (after?_eq_some_iff.1 ha)

theorem readWord?_eq_some_iff : readWord? s = some n ↔ Numeral s n ∧ n ≤ 65535 := by
  have hread : readWord? s = (read? 10 ((after? ['+'] s).getD s)).bind fun n =>
      if n ≤ 65535 then some n else none := rfl
  simp only [hread, Option.bind_eq_some_iff, ← numeral_iff, Option.ite_none_right_eq_some,
    Option.some.injEq]
  constructor
  · rintro ⟨m, hm, hle, rfl⟩
    exact ⟨hm, hle⟩
  · rintro ⟨hn, hle⟩
    exact ⟨n, hn, hle, rfl⟩

theorem Http.Status.ofNat?_eq_some_iff {c : Status} : Status.ofNat? n = some c ↔ c.code = n := by
  unfold Status.ofNat?
  split_ifs with h
  · rw [Option.some.injEq]
    exact ⟨fun heq => heq ▸ rfl, fun heq => by subst heq; rfl⟩
  · exact ⟨nofun, fun heq => absurd ⟨c.le_code, c.code_le⟩ (heq ▸ h)⟩

/-- The text of a status line denotes a status exactly if a numeral of its code remains. The limit
of sixteen bits excludes no code. -/
theorem parseStatus_eq_some_iff {c : Status} :
    parseStatus text = some c ↔ ∃ r, Remains text r ∧ Numeral r c.code := by
  have hword : c.code ≤ 65535 := Nat.le_trans c.code_le (by decide)
  simp only [parseStatus, Option.bind_eq_some_iff, readWord?_eq_some_iff, Status.ofNat?_eq_some_iff,
    remains_iff, exists_eq_left']
  constructor
  · rintro ⟨_, ⟨hn, -⟩, rfl⟩
    exact hn
  · exact fun hn => ⟨_, ⟨hn, hword⟩, rfl⟩

theorem existsUnique_remains (text : List Char) : ∃! r, Remains text r := by
  simp only [remains_iff]
  exact ⟨_, rfl, fun _ h => h.symm⟩

/-- A numeral is of one number. -/
theorem Numeral.unique {m : Nat} (hm : Numeral s m) (hn : Numeral s n) : m = n := by
  rw [numeral_iff] at hm hn
  rw [hm] at hn
  exact Option.some.inj hn

/-- Whatever the rest of a status line is, one text remains of it when the blanks and semicolons are
removed. The rest denotes a status exactly if this text is a numeral, of any length, of a number
from 100 to 999, which is the code then. A greater number is not taken for a status, and neither is
what would be left of it in fewer bits. -/
theorem reads_status_code (text : List Char) : (∃! r, Remains text r) ∧
    (∀ n, (parseStatus text).map Status.code = some n ↔
      (∃ r, Remains text r ∧ Numeral r n) ∧ 100 ≤ n ∧ n ≤ 999) ∧
    ∀ r n, Remains text r → Numeral r n → 999 < n → parseStatus text = none := by
  refine ⟨existsUnique_remains text, fun n => ?_, fun r n hr hn hlt => ?_⟩
  · rw [Option.map_eq_some_iff]
    constructor
    · rintro ⟨c, hc, rfl⟩
      exact ⟨parseStatus_eq_some_iff.1 hc, c.le_code, c.code_le⟩
    · rintro ⟨h, hle, hge⟩
      exact ⟨⟨n, hle, hge⟩, parseStatus_eq_some_iff.2 h, rfl⟩
  · refine Option.eq_none_iff_forall_ne_some.2 fun c hc => ?_
    obtain ⟨r', hr', hn'⟩ := parseStatus_eq_some_iff.1 hc
    obtain rfl : r' = r := (existsUnique_remains text).unique hr' hr
    have hcode : c.code = n := hn'.unique hn
    have hle : c.code ≤ 999 := c.code_le
    omega

end

/-- Sixteen bits of this number would be a status. -/
theorem reads_status_code_of_great :
    let text := " +0065736 ;;\n".toList
    Remains text "+0065736".toList ∧ Numeral "+0065736".toList 65736 ∧ 65736 % 65536 = 200 ∧
      parseStatus text = none := by
  intro text
  have hremains : Remains text "+0065736".toList := remains_iff.2 (by decide)
  have hnumeral : Numeral "+0065736".toList 65736 := numeral_iff.2 (by decide)
  exact ⟨hremains, hnumeral, by decide,
    (reads_status_code text).2.2 _ _ hremains hnumeral (by decide)⟩

end FunctionHost
