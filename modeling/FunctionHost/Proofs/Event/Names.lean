import FunctionHost.Event.Headers
import Mathlib.Data.List.Chain
import Mathlib.Data.List.Forall2
import Mathlib.Tactic.SplitIfs
/-!
# Names in any letter case

The name of a header is the same whatever the case of its letters is. The canonical form depends on
the name alone and not on its letter case (`canonicalFrom_lower`), and it is the name but for the
letter case (`lower_canonicalFrom`). Which case a letter is written in depends on the character
before it and on nothing else, so a canonical form can be told by looking at neighbours
(`IsCanonical`), and what is canonical stays as it is (`canonicalName_eq_self_iff`).

Main statement: `identifies_names`, two names have one canonical form exactly if they are the same
character by character, but for the case of ASCII letters (`SameLetter`); and this form is the only
one of these names that is canonical.
-/

namespace FunctionHost

open FunctionHost.Http

namespace Http

/-- The same character, or the two forms of an ASCII letter. -/
inductive SameLetter : Char → Char → Prop where
  /-- The same character. -/
  | same (c : Char) : SameLetter c c
  /-- A capital and its small form. -/
  | small {c d : Char} : 'A' ≤ c ∧ c ≤ 'Z' → d.toNat = c.toNat + 32 → SameLetter c d
  /-- A small letter and its capital. -/
  | capital {c d : Char} : 'A' ≤ d ∧ d ≤ 'Z' → c.toNat = d.toNat + 32 → SameLetter c d

variable {c d : Char}

/-! ### Letters -/

theorem toNat_char_of_lt {n : Nat} (h : n < 0xD800) : (Char.ofNat n).toNat = n := by
  unfold Char.ofNat
  rw [dif_pos (Or.inl h)]
  rfl

/-- The capitals, by their numbers. -/
theorem capital_iff : ('A' ≤ c ∧ c ≤ 'Z') ↔ (65 ≤ c.toNat ∧ c.toNat ≤ 90) := Iff.rfl

/-- The small letters, by their numbers. -/
theorem small_iff : ('a' ≤ c ∧ c ≤ 'z') ↔ (97 ≤ c.toNat ∧ c.toNat ≤ 122) := Iff.rfl

theorem toNat_lowerChar (c : Char) :
    (lowerChar c).toNat = if 65 ≤ c.toNat ∧ c.toNat ≤ 90 then c.toNat + 32 else c.toNat := by
  simp only [lowerChar, capital_iff]
  split_ifs with h
  · exact toNat_char_of_lt (by omega)
  · rfl

theorem toNat_upperChar (c : Char) :
    (upperChar c).toNat = if 97 ≤ c.toNat ∧ c.toNat ≤ 122 then c.toNat - 32 else c.toNat := by
  simp only [upperChar, small_iff]
  split_ifs with h
  · exact toNat_char_of_lt (by omega)
  · rfl

@[simp] theorem lowerChar_lowerChar (c : Char) : lowerChar (lowerChar c) = lowerChar c := by
  rw [← Char.toNat_inj, toNat_lowerChar, toNat_lowerChar]
  split_ifs <;> omega

@[simp] theorem lowerChar_upperChar (c : Char) : lowerChar (upperChar c) = lowerChar c := by
  rw [← Char.toNat_inj, toNat_lowerChar, toNat_lowerChar, toNat_upperChar]
  split_ifs <;> omega

@[simp] theorem upperChar_lowerChar (c : Char) : upperChar (lowerChar c) = upperChar c := by
  rw [← Char.toNat_inj, toNat_upperChar, toNat_upperChar, toNat_lowerChar]
  split_ifs <;> omega

@[simp] theorem upperChar_upperChar (c : Char) : upperChar (upperChar c) = upperChar c := by
  rw [← Char.toNat_inj, toNat_upperChar, toNat_upperChar]
  split_ifs <;> omega

/-- Two characters have one small form exactly if they are the same letter. -/
theorem lowerChar_eq_iff : lowerChar c = lowerChar d ↔ SameLetter c d := by
  rw [← Char.toNat_inj, toNat_lowerChar, toNat_lowerChar]
  constructor
  · intro h
    split_ifs at h with hc hd hd
    · obtain rfl : c = d := Char.toNat_inj.1 (by omega)
      exact .same c
    · exact .small (capital_iff.2 hc) h.symm
    · exact .capital (capital_iff.2 hd) h
    · obtain rfl : c = d := Char.toNat_inj.1 h
      exact .same c
  · intro h
    cases h with
    | same => rfl
    | small hc hd =>
      rw [capital_iff] at hc
      split_ifs <;> omega
    | capital hd hc =>
      rw [capital_iff] at hd
      split_ifs <;> omega

theorem lowerChar_eq_self_iff : lowerChar c = c ↔ ¬ ('A' ≤ c ∧ c ≤ 'Z') := by
  rw [← Char.toNat_inj, toNat_lowerChar, capital_iff]
  split_ifs <;> omega

theorem upperChar_eq_self_iff : upperChar c = c ↔ ¬ ('a' ≤ c ∧ c ≤ 'z') := by
  rw [← Char.toNat_inj, toNat_upperChar, small_iff]
  split_ifs <;> omega

/-- A character that is written in either case is the same letter. -/
theorem lowerChar_cased (up : Bool) (c : Char) :
    lowerChar (if up then upperChar c else lowerChar c) = lowerChar c := by
  split_ifs
  · exact lowerChar_upperChar c
  · exact lowerChar_lowerChar c

theorem lowerChar_eq_hyphen_iff : lowerChar c = '-' ↔ c = '-' := by
  have hhyphen : '-'.toNat = 45 := rfl
  rw [← Char.toNat_inj, ← Char.toNat_inj, toNat_lowerChar, hhyphen]
  split_ifs <;> omega

/-- Letter case does not tell whether a character is a hyphen. -/
theorem beq_hyphen_eq (h : lowerChar c = lowerChar d) : (c == '-') = (d == '-') := by
  rw [Bool.eq_iff_iff, beq_iff_eq, beq_iff_eq, ← lowerChar_eq_hyphen_iff, h,
    lowerChar_eq_hyphen_iff]

/-- Whether a character may be in a token does not depend on its case. -/
theorem isTokenChar_lowerChar (c : Char) :
    isTokenChar (lowerChar c).toNat = isTokenChar c.toNat := by
  rw [toNat_lowerChar]
  split_ifs with h
  · have hletter : isLetter c.toNat = true := by simp [isLetter]; omega
    have hlower : isLetter (c.toNat + 32) = true := by simp [isLetter]; omega
    simp [isTokenChar, hletter, hlower]
  · rfl

@[simp] theorem lower_lower (s : List Char) : lower (lower s) = lower s := by
  simp [lower]

end Http

/-! ### Names -/

/-- Two names are the same but for the case of their letters. -/
def SameName (a b : String) : Prop := lower a.toList = lower b.toList

instance (a b : String) : Decidable (SameName a b) :=
  inferInstanceAs (Decidable (lower a.toList = lower b.toList))

/-- Names are the same exactly if they are so character by character. -/
theorem sameName_iff {a b : String} : SameName a b ↔ List.Forall₂ SameLetter a.toList b.toList := by
  have hletter : (fun c d => lowerChar c = lowerChar d) = SameLetter := by
    funext c d
    exact propext lowerChar_eq_iff
  unfold SameName lower
  rw [← List.forall₂_eq_eq_eq, List.forall₂_map_left_iff, List.forall₂_map_right_iff, hletter]

theorem canonicalFrom_lower (up : Bool) (s : List Char) :
    canonicalFrom up (lower s) = canonicalFrom up s := by
  induction s generalizing up with
  | nil => rfl
  | cons c s ih =>
    have hhyphen : (lowerChar c == '-') = (c == '-') := beq_hyphen_eq (lowerChar_lowerChar c)
    have hcons : lower (c :: s) = lowerChar c :: lower s := rfl
    rw [hcons, canonicalFrom, canonicalFrom, hhyphen, ih, upperChar_lowerChar, lowerChar_lowerChar]

theorem lower_canonicalFrom (up : Bool) (s : List Char) :
    lower (canonicalFrom up s) = lower s := by
  induction s generalizing up with
  | nil => rfl
  | cons c s ih =>
    rw [canonicalFrom, lower, List.map_cons, lowerChar_cased]
    exact congrArg _ (ih (c == '-'))

theorem sameName_canonicalName (a : String) : SameName (canonicalName a) a := by
  unfold SameName canonicalName
  rw [String.toList_ofList, lower_canonicalFrom]

/-- Two names have one canonical form exactly if they are the same but for the case of their
letters. -/
theorem canonicalName_eq_iff {a b : String} : canonicalName a = canonicalName b ↔ SameName a b := by
  constructor
  · intro h
    exact (sameName_canonicalName a).symm.trans (h ▸ sameName_canonicalName b)
  · intro h
    unfold canonicalName
    rw [← canonicalFrom_lower, h, canonicalFrom_lower]

/-! ### Canonical names -/

/-- What may stand after a character of a canonical name: an ASCII letter is a capital exactly after
a hyphen. -/
def MayFollow (c d : Char) : Prop :=
  if c = '-' then ¬ ('a' ≤ d ∧ d ≤ 'z') else ¬ ('A' ≤ d ∧ d ≤ 'Z')

instance (c d : Char) : Decidable (MayFollow c d) :=
  inferInstanceAs (Decidable (if c = '-' then ¬ ('a' ≤ d ∧ d ≤ 'z') else ¬ ('A' ≤ d ∧ d ≤ 'Z')))

/-- A name in which an ASCII letter is a capital exactly where a part starts, which is at the front
and after each hyphen. -/
def IsCanonical (a : String) : Prop := ('-' :: a.toList).IsChain MayFollow

instance (a : String) : Decidable (IsCanonical a) :=
  inferInstanceAs (Decidable (('-' :: a.toList).IsChain MayFollow))

section

variable {a b : String} {c d : Char}

theorem mayFollow_iff :
    MayFollow c d ↔ (if c == '-' then upperChar d else lowerChar d) = d := by
  unfold MayFollow
  by_cases h : c = '-'
  · simp [h, upperChar_eq_self_iff]
  · simp [h, lowerChar_eq_self_iff]

theorem mayFollow_cased (c d : Char) :
    MayFollow c (if c == '-' then upperChar d else lowerChar d) := by
  rw [mayFollow_iff]
  split_ifs
  · exact upperChar_upperChar d
  · exact lowerChar_lowerChar d

/-- What is written after a character may follow it. -/
theorem isChain_canonicalFrom (c : Char) (s : List Char) :
    (c :: canonicalFrom (c == '-') s).IsChain MayFollow := by
  induction s generalizing c with
  | nil => exact .singleton c
  | cons d s ih =>
    -- the flag is taken from `d` as it was, and the neighbour is `d` as it is written
    rw [canonicalFrom, List.isChain_cons_cons, ← beq_hyphen_eq (lowerChar_cased (c == '-') d)]
    exact ⟨mayFollow_cased c d, ih _⟩

theorem canonicalFrom_eq_self_iff (c : Char) (s : List Char) :
    canonicalFrom (c == '-') s = s ↔ (c :: s).IsChain MayFollow := by
  induction s generalizing c with
  | nil => simp [canonicalFrom]
  | cons d s ih => rw [canonicalFrom, List.isChain_cons_cons, List.cons.injEq, mayFollow_iff, ih]

theorem isCanonical_canonicalName (a : String) : IsCanonical (canonicalName a) := by
  unfold IsCanonical canonicalName
  rw [String.toList_ofList]
  exact isChain_canonicalFrom '-' a.toList

/-- A name stays as it is exactly if it is canonical. -/
theorem canonicalName_eq_self_iff : canonicalName a = a ↔ IsCanonical a := by
  unfold canonicalName
  rw [← String.toList_inj, String.toList_ofList]
  exact canonicalFrom_eq_self_iff '-' a.toList

/-- Of all names that are the same, the canonical form is the one that is canonical. -/
theorem eq_canonicalName_iff : b = canonicalName a ↔ IsCanonical b ∧ SameName b a := by
  constructor
  · rintro rfl
    exact ⟨isCanonical_canonicalName a, sameName_canonicalName a⟩
  · rintro ⟨hb, hsame⟩
    calc b = canonicalName b := (canonicalName_eq_self_iff.2 hb).symm
      _ = canonicalName a := canonicalName_eq_iff.2 hsame

end

/-- Two names have one canonical form exactly if they are equal but for the case of ASCII letters.
The canonical form is equal to the name but for that case, and it is its own canonical form. Of all
names that are equal in this way it is the one in which an ASCII letter is a capital exactly where a
part starts. -/
theorem identifies_names (a b : String) :
    (canonicalName a = canonicalName b ↔ List.Forall₂ SameLetter a.toList b.toList) ∧
    List.Forall₂ SameLetter (canonicalName a).toList a.toList ∧
    canonicalName (canonicalName a) = canonicalName a ∧
    (b = canonicalName a ↔ IsCanonical b ∧ List.Forall₂ SameLetter b.toList a.toList) := by
  simp only [← sameName_iff]
  exact ⟨canonicalName_eq_iff, sameName_canonicalName a,
    canonicalName_eq_self_iff.2 (isCanonical_canonicalName a), eq_canonicalName_iff⟩

/-- Hyphens in front and next to each other, a part that starts with a digit, and one that starts
with a letter that is not ASCII. -/
example : canonicalName "-x--WWW-2ND-éBc" = "-X--Www-2nd-ébc" ∧
    IsCanonical "-X--Www-2nd-ébc" ∧ ¬ IsCanonical "-X--Www-2nd-éBc" := by decide

end FunctionHost
