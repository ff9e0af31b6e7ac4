import FunctionHost.Event.Query
import FunctionHost.Http.Token
import FunctionHost.Proofs.Event.Grouping
import FunctionHost.Proofs.Text.Pieces
/-!
# Writing a query

A text is written byte by byte: a letter, a digit and three marks may stand for themselves, a blank
may be a `+`, and any byte may be a `%` with its two digits (`Escaped`). A query is pairs of a key
and a value with `&` between them, once or more often (`Written`). Nothing that is written has a `&`
or a `=` of its own, so the query is cut where it was put together.

Main statement: `reads_written`, however a list of pairs is written, the parameters are its values
by key, and every list can be written.
-/

namespace FunctionHost.Query

open FunctionHost.Text FunctionHost.Http

/-! ### Texts -/

/-- A character that may stand for its own byte. -/
def standsAlone (c : Char) : Bool :=
  isLetter c.toNat || isDigit c.toNat || c == '-' || c == '.' || c == '_'

/-- A way in which bytes are written. -/
inductive Escaped : List UInt8 → List Char → Prop where
  /-- No bytes at all. -/
  | nil : Escaped [] []
  /-- A character that stands for itself. -/
  | alone {c : Char} {bs : List UInt8} {s : List Char} : standsAlone c = true → Escaped bs s →
      Escaped (UInt8.ofNat c.toNat :: bs) (c :: s)
  /-- A blank. -/
  | plus {bs : List UInt8} {s : List Char} : Escaped bs s → Escaped (32 :: bs) ('+' :: s)
  /-- A byte by its two digits, of letters in either case. -/
  | digits {h l : Char} {m n : Nat} {bs : List UInt8} {s : List Char} :
      digitValue? 16 h = some m → digitValue? 16 l = some n → Escaped bs s →
      Escaped (UInt8.ofNat (m * 16 + n) :: bs) ('%' :: h :: l :: s)

/-- Any bytes can be written. -/
theorem exists_escaped (bs : List UInt8) : ∃ s, Escaped bs s := by
  have hdigit : ∀ d < 16, digitValue? 16 (digitChar d) = some d := by decide
  induction bs with
  | nil => exact ⟨[], .nil⟩
  | cons b bs ih =>
    obtain ⟨s, hs⟩ := ih
    have hhigh : b.toNat / 16 < 16 := Nat.div_lt_of_lt_mul b.toNat_lt
    have hlow : b.toNat % 16 < 16 := Nat.mod_lt _ (by omega)
    have hwritten := Escaped.digits (hdigit _ hhigh) (hdigit _ hlow) hs
    rw [Nat.div_add_mod', UInt8.ofNat_toNat] at hwritten
    exact ⟨_, hwritten⟩

section

variable {bs : List UInt8} {s t : List Char} {c z : Char}

theorem lt_of_digitValue? {n : Nat} (h : digitValue? 16 c = some n) : c.toNat < 0x80 := by
  unfold digitValue? at h
  simp only [Option.ite_none_right_eq_some] at h
  have hlt := h.1
  split_ifs at hlt <;> omega

theorem lt_of_standsAlone (h : standsAlone c = true) : c.toNat < 0x80 := by
  simp only [standsAlone, isLetter, isDigit, Bool.or_eq_true, Bool.and_eq_true, decide_eq_true_eq,
    beq_iff_eq] at h
  rcases h with (((h | h) | rfl) | rfl) | rfl
  · omega
  · omega
  all_goals decide

/-- What is written has only characters that stand for themselves, pluses, percent signs and
digits. -/
theorem Escaped.notMem (h : Escaped bs s) (halone : standsAlone z = false)
    (hdigit : digitValue? 16 z = none) (hplus : z ≠ '+') (hpercent : z ≠ '%') : z ∉ s := by
  induction h with
  | nil => exact List.not_mem_nil
  | alone hc _ ih =>
    rw [List.mem_cons, not_or]
    refine ⟨?_, ih⟩
    rintro rfl
    rw [hc] at halone
    cases halone
  | plus _ ih => exact List.not_mem_cons_of_ne_of_not_mem hplus ih
  | digits hm hn _ ih =>
    simp only [List.mem_cons, not_or]
    refine ⟨hpercent, ?_, ?_, ih⟩
    · rintro rfl
      rw [hm] at hdigit
      cases hdigit
    · rintro rfl
      rw [hn] at hdigit
      cases hdigit

/-! ### Reading a text -/

theorem unescape_cons {b : UInt8} (hplus : b ≠ 43) (hpercent : b ≠ 37) :
    unescape (b :: bs) = b :: unescape bs := by
  rw [unescape]
  · exact hplus
  · intro _ _ _ h
    exact absurd h hpercent

theorem hexValue?_ofNat {n : Nat} (h : digitValue? 16 c = some n) :
    hexValue? (UInt8.ofNat c.toNat) = some n := by
  rw [hexValue?, Utf8.toNat_ofNat_of_lt (Nat.lt_trans (lt_of_digitValue? h) (by omega)),
    Char.ofNat_toNat, h]

/-- The bytes are read from what is written. -/
theorem Escaped.unescape (h : Escaped bs s) : Query.unescape (Utf8.encode s) = bs := by
  induction h with
  | nil => rw [Utf8.encode, List.flatMap_nil, Query.unescape]
  | @alone c _ _ hc _ ih =>
    have hlt := lt_of_standsAlone hc
    have hne : ∀ z : Char, standsAlone z = false → z.toNat < 0x80 →
        UInt8.ofNat c.toNat ≠ UInt8.ofNat z.toNat := by
      intro z hz hzlt heq
      have hnat := congrArg UInt8.toNat heq
      rw [Utf8.toNat_ofNat_of_lt (by omega), Utf8.toNat_ofNat_of_lt (by omega)] at hnat
      rw [Char.toNat_inj.1 hnat, hz] at hc
      cases hc
    rw [Utf8.encode_cons_of_lt hlt, unescape_cons (hne '+' (by decide) (by decide))
      (hne '%' (by decide) (by decide)), ih]
  | plus _ ih =>
    have hcode : UInt8.ofNat '+'.toNat = 43 := by decide
    rw [Utf8.encode_cons_of_lt (by decide), hcode, Query.unescape, ih]
  | digits hm hn _ ih =>
    have hcode : UInt8.ofNat '%'.toNat = 37 := by decide
    rw [Utf8.encode_cons_of_lt (by decide), Utf8.encode_cons_of_lt (lt_of_digitValue? hm),
      Utf8.encode_cons_of_lt (lt_of_digitValue? hn), hcode, Query.unescape, hexValue?_ofNat hm,
      hexValue?_ofNat hn]
    dsimp only
    rw [ih]

/-- A text is read from what is written of its bytes. -/
theorem decode_of_escaped {k : String} (h : Escaped (Utf8.encode k.toList) s) : decode s = k := by
  rw [decode, h.unescape, Utf8.decodeLossy_encode, String.ofList_toList]

theorem Escaped.ampersand_notMem (h : Escaped bs s) : '&' ∉ s :=
  h.notMem (by decide) (by decide) (by decide) (by decide)

theorem Escaped.equals_notMem (h : Escaped bs s) : '=' ∉ s :=
  h.notMem (by decide) (by decide) (by decide) (by decide)

end

/-! ### Queries -/

/-- A way in which pairs are written. -/
inductive Written : List (String × String) → List Char → Prop where
  /-- No pairs at all. -/
  | nil : Written [] []
  /-- A `&` that ends no pair. -/
  | ampersand {ps : List (String × String)} {q : List Char} : Written ps q → Written ps ('&' :: q)
  /-- A pair at the end. -/
  | last {k v : String} {s t : List Char} : Escaped (Utf8.encode k.toList) s →
      Escaped (Utf8.encode v.toList) t → Written [(k, v)] (s ++ '=' :: t)
  /-- A pair with a `&` after it. -/
  | pair {k v : String} {s t : List Char} {ps : List (String × String)} {q : List Char} :
      Escaped (Utf8.encode k.toList) s → Escaped (Utf8.encode v.toList) t → Written ps q →
      Written ((k, v) :: ps) (s ++ '=' :: (t ++ '&' :: q))

/-- Any pairs can be written. -/
theorem exists_written (ps : List (String × String)) : ∃ q, Written ps q := by
  induction ps with
  | nil => exact ⟨[], .nil⟩
  | cons p ps ih =>
    obtain ⟨k, v⟩ := p
    obtain ⟨q, hq⟩ := ih
    obtain ⟨s, hs⟩ := exists_escaped (Utf8.encode k.toList)
    obtain ⟨t, ht⟩ := exists_escaped (Utf8.encode v.toList)
    exact ⟨_, .pair hs ht hq⟩

section

variable {k v : String} {s t q : List Char} {ps : List (String × String)}

theorem pair_of_escaped (hs : Escaped (Utf8.encode k.toList) s)
    (ht : Escaped (Utf8.encode v.toList) t) : pair (s ++ '=' :: t) = (k, v) := by
  rw [pair, cutAt?_append hs.equals_notMem]
  dsimp only
  rw [decode_of_escaped hs, decode_of_escaped ht]

theorem ampersand_notMem_pair (hs : Escaped (Utf8.encode k.toList) s)
    (ht : Escaped (Utf8.encode v.toList) t) : '&' ∉ s ++ '=' :: t := by
  rw [List.mem_append, List.mem_cons, not_or, not_or]
  exact ⟨hs.ampersand_notMem, by decide, ht.ampersand_notMem⟩

/-- The pairs are read from what is written. -/
theorem pairs_of_written {q : String} (h : Written ps q.toList) : pairs q = ps := by
  unfold pairs
  generalize q.toList = cs at h
  induction h with
  | nil => rfl
  | ampersand _ ih =>
    rw [cutAll_cons_self]
    exact ih
  | last hs ht =>
    rw [cutAll_of_notMem (ampersand_notMem_pair hs ht)]
    simp [pair_of_escaped hs ht]
  | @pair _ _ s t _ _ hs ht _ ih =>
    have hsplit : ∀ q, s ++ '=' :: (t ++ '&' :: q) = (s ++ '=' :: t) ++ '&' :: q := by simp
    rw [hsplit, cutAll_append, cutAll_of_notMem (ampersand_notMem_pair hs ht)]
    simp [pair_of_escaped hs ht, ih]

end

/-- Every list of pairs can be written as a query. However it is written, the parameters of the
query have under each key that occurs, and under no other, its value or the list of its values in
the order given, and there are as many values as pairs. -/
theorem reads_written (ps : List (String × String)) : (∃ q : String, Written ps q.toList) ∧
    ∀ q : String, Written ps q.toList →
      (params (some q)).Ascending ∧
      (∀ k, k ∈ (params (some q)).map Prod.fst ↔ k ∈ ps.map Prod.fst) ∧
      (∀ k x, (k, x) ∈ params (some q) →
        x.Tight ∧ x.list = (ps.filter (·.1 = k)).map Prod.snd) ∧
      ((params (some q)).flatMap (·.2.list)).length = ps.length := by
  constructor
  · obtain ⟨q, hq⟩ := exists_written ps
    exact ⟨String.ofList q, by rwa [String.toList_ofList]⟩
  · intro q hq
    have hgroups : Groups (params (some q)) ps := by
      have hparams : params (some q) = Values.grouped (pairs q) := rfl
      rw [hparams, pairs_of_written hq]
      exact Values.groups_grouped ps
    exact ⟨hgroups.ascending, fun k => hgroups.mem_keys_iff,
      fun k x hmem => (hgroups.mem_iff k x).1 hmem, hgroups.length⟩

/-- Two keys that are written in different ways are one key. -/
theorem reads_written_of_two_spellings :
    let ps := [("a b", "é"), ("", "%"), ("a b", "")]
    let q := "a+b=%C3%a9&&=%25&%61%20b="
    Written ps q.toList ∧ (∃ x, ("a b", x) ∈ params (some q) ∧ x.list = ["é", ""]) ∧
      ((params (some q)).flatMap (·.2.list)).length = 3 := by
  intro ps q
  have hq : Written ps q.toList := by
    have hsplit : q.toList = "a+b".toList ++ '=' :: ("%C3%a9".toList ++ '&' :: '&' ::
      ([] ++ '=' :: ("%25".toList ++ '&' :: ("%61%20b".toList ++ '=' :: [])))) := by decide
    rw [hsplit]
    refine .pair ?_ ?_ (.ampersand (.pair ?_ ?_ (.last ?_ ?_)))
    · exact .alone (c := 'a') (by decide) (.plus (.alone (c := 'b') (by decide) .nil))
    · exact .digits (m := 12) (n := 3) (by decide) (by decide)
        (.digits (m := 10) (n := 9) (by decide) (by decide) .nil)
    · exact .nil
    · exact .digits (m := 2) (n := 5) (by decide) (by decide) .nil
    · exact .digits (m := 6) (n := 1) (by decide) (by decide)
        (.digits (m := 2) (n := 0) (by decide) (by decide) (.alone (c := 'b') (by decide) .nil))
    · exact .nil
  obtain ⟨-, hkeys, hvalues, hlength⟩ := (reads_written ps).2 q hq
  obtain ⟨⟨k, x⟩, hx, hk⟩ := List.mem_map.1 ((hkeys "a b").2 (by decide))
  cases hk
  exact ⟨hq, ⟨x, hx, (hvalues "a b" x hx).2⟩, hlength⟩

end FunctionHost.Query
