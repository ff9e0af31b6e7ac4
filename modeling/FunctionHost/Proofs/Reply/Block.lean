import FunctionHost.Proofs.Reply.Consumption
import FunctionHost.Proofs.Text.Blank
import FunctionHost.Proofs.Text.Digits
import Mathlib.Data.List.Basic
/-!
# The block of a reply

A reply is printed as a block of four lines: the start marker of its request, a status line, a body
line and the end marker. Markers are found anywhere in a line, so what keeps replies apart is that
the marker of one request does not stand in the marker of another (`start_infix_start_iff`,
`finish_infix_finish_iff`), nor any marker in a status or a body line (`quiet_statusLine`,
`quiet_bodyLine`).

Main statement: `reply_foldl_opened`, a decoder that has read a block up to its end marker has the
reply.
-/

namespace FunctionHost

open FunctionHost.Http FunctionHost.Text

/-! ### Texts cut at an equals sign -/

section

variable {a b x y : List Char}

/-- A text with an equals sign stands in another that has one only if the signs meet. -/
theorem parts_of_infix_sign (hb : '=' ∉ b) (hy : '=' ∉ y)
    (h : a ++ '=' :: x <:+: b ++ '=' :: y) : a <:+ b ∧ x <+: y := by
  obtain ⟨s, t, h⟩ := h
  have h : b ++ '=' :: y = (s ++ a) ++ '=' :: (x ++ t) := by simp [← h]
  obtain ⟨rfl, -, rfl⟩ := (List.append_cons_inj_of_notMem hb hy).1 h
  exact ⟨List.suffix_append _ _, List.prefix_append _ _⟩

/-- A text that ends in its one equals sign stands around the first such sign of another text, or
after it. -/
theorem suffix_or_infix_of_sign (ha : '=' ∉ a) (hb : '=' ∉ b) (h : a ++ ['='] <:+: b ++ '=' :: y) :
    a <:+ b ∨ a ++ ['='] <:+: y := by
  obtain ⟨s, t, h⟩ := h
  have h : (s ++ a) ++ '=' :: t = b ++ '=' :: y := by simp [← h]
  rcases List.append_eq_append_iff.1 h with ⟨u, hu, ht⟩ | ⟨u, hu, hy⟩
  · cases u with
    | nil =>
      rw [hu, List.append_nil]
      exact .inl (List.suffix_append _ _)
    | cons e u =>
      obtain ⟨rfl, -⟩ := List.cons.inj ht
      exact absurd (by rw [hu]; simp) hb
  · cases u with
    | nil =>
      rw [List.append_nil] at hu
      rw [← hu]
      exact .inl (List.suffix_append _ _)
    | cons e u =>
      obtain ⟨rfl, rfl⟩ := List.cons.inj hy
      -- the first sign stands before the text, so the text stands after the sign
      rcases List.append_eq_append_iff.1 hu with ⟨v, -, hv⟩ | ⟨v, -, hv⟩
      · exact absurd (by rw [hv]; simp) ha
      · cases v with
        | nil => exact absurd (by rw [← List.nil_append a, ← hv]; simp) ha
        | cons e v =>
          obtain ⟨-, rfl⟩ := List.cons.inj hv
          exact .inr ⟨v, t, by simp⟩

/-- A text stands only after what lacks its first character. -/
theorem infix_of_cons_infix_append {z : Char} (hz : z ∉ a) (h : z :: x <:+: a ++ y) :
    z :: x <:+: y := by
  induction a with
  | nil => exact h
  | cons c a ih =>
    rw [List.mem_cons, not_or] at hz
    rw [List.cons_append] at h
    rcases List.infix_cons_iff.1 h with hp | hi
    · exact absurd (List.cons_prefix_cons.1 hp).1 hz.1
    · exact ih hz.2 hi

end

namespace Marker

/-- A request id that does not break its markers. -/
structure Fit (requestId : String) : Prop where
  /-- It has no semicolon, which ends a marker. -/
  semicolon : ';' ∉ requestId.toList
  /-- It has no equals sign, which ends a tag. -/
  equals : '=' ∉ requestId.toList
  /-- It has no newline, which ends a line. -/
  newline : '\n' ∉ requestId.toList

/-! ### Markers in markers -/

/-- The start tag without its equals sign. -/
def startBase : List Char := "CMD_OUTPUT_START".toList

/-- The end tag without its equals sign. -/
def endBase : List Char := "CMD_OUTPUT_END".toList

theorem toList_startTag : startTag.toList = startBase ++ ['='] := by rfl

theorem toList_endTag : endTag.toList = endBase ++ ['='] := by rfl

theorem toList_start (r : String) : (start r).toList = startBase ++ '=' :: (r.toList ++ [';']) := by
  rw [start, String.toList_append, String.toList_append, toList_startTag]
  simp

theorem toList_finish (r : String) : (finish r).toList = endBase ++ '=' :: (r.toList ++ [';']) := by
  rw [finish, String.toList_append, String.toList_append, toList_endTag]
  simp

theorem startTag_infix_start (r : String) : startTag.toList <:+: (start r).toList := by
  rw [toList_start, toList_startTag]
  exact ⟨[], r.toList ++ [';'], by simp⟩

theorem endTag_infix_finish (r : String) : endTag.toList <:+: (finish r).toList := by
  rw [toList_finish, toList_endTag]
  exact ⟨[], r.toList ++ [';'], by simp⟩

section

variable {r r' : String} (h : Fit r')
include h

theorem Fit.equals_notMem : '=' ∉ r'.toList ++ [';'] := by
  simp [h.equals]

/-- An id whose marker begins like another marker is the other's id. -/
theorem eq_of_prefix (hp : r.toList ++ [';'] <+: r'.toList ++ [';']) : r = r' := by
  obtain ⟨t, ht⟩ := hp
  rw [List.append_assoc, List.singleton_append] at ht
  have ht := ((List.append_cons_inj_of_notMem h.semicolon List.not_mem_nil).1 ht.symm).1
  exact (String.toList_inj.1 ht).symm

theorem start_infix_start_iff : (start r).toList <:+: (start r').toList ↔ r = r' := by
  constructor
  · intro hi
    rw [toList_start, toList_start] at hi
    exact eq_of_prefix h (parts_of_infix_sign (by decide) h.equals_notMem hi).2
  · rintro rfl
    exact List.infix_rfl

theorem finish_infix_finish_iff : (finish r).toList <:+: (finish r').toList ↔ r = r' := by
  constructor
  · intro hi
    rw [toList_finish, toList_finish] at hi
    exact eq_of_prefix h (parts_of_infix_sign (by decide) h.equals_notMem hi).2
  · rintro rfl
    exact List.infix_rfl

theorem not_finish_infix_start : ¬ (finish r).toList <:+: (start r').toList := by
  intro hi
  rw [toList_finish, toList_start] at hi
  exact absurd (parts_of_infix_sign (by decide) h.equals_notMem hi).1 (by decide)

theorem not_start_infix_finish : ¬ (start r).toList <:+: (finish r').toList := by
  intro hi
  rw [toList_start, toList_finish] at hi
  exact absurd (parts_of_infix_sign (by decide) h.equals_notMem hi).1 (by decide)

end

/-- An end marker stands only after a tag that does not begin like it. -/
theorem finish_infix_of_tagged {r : String} {tag y : List Char} (hletter : 'C' ∉ tag.tail)
    (hlength : endBase.length ≤ tag.length) (hno : ¬ endBase <+: tag)
    (h : (finish r).toList <:+: tag ++ y) : (finish r).toList <:+: y := by
  obtain ⟨x, hx⟩ : ∃ x, (finish r).toList = 'C' :: x := ⟨_, toList_finish r⟩
  have hbase : endBase <+: (finish r).toList := by
    rw [toList_finish]
    exact List.prefix_append _ _
  cases tag with
  | nil => exact absurd hlength (by decide)
  | cons c t =>
    rcases List.infix_cons_iff.1 h with hp | hi
    · exact absurd (List.prefix_of_prefix_length_le (hbase.trans hp)
        (List.prefix_append (c :: t) y) hlength) hno
    · rw [hx] at hi ⊢
      exact infix_of_cons_infix_append hletter hi

/-- The end marker of a request does not stand in its start marker, whatever its id. -/
theorem not_finish_infix_own_start (r : String) : ¬ (finish r).toList <:+: (start r).toList := by
  intro h
  have htag : (start r).toList = startTag.toList ++ (r.toList ++ [';']) := by
    rw [toList_start, toList_startTag, List.append_assoc, List.singleton_append]
  rw [htag] at h
  have hlength := (finish_infix_of_tagged (by decide) (by decide) (by decide) h).length_le
  rw [toList_finish] at hlength
  simp only [List.length_append, List.length_cons, List.length_nil] at hlength
  have hbase : endBase.length = 14 := by rfl
  omega

/-! ### Lines without markers -/

/-- A line without the texts that markers begin with. -/
structure Quiet (line : String) : Prop where
  /-- It has no start tag. -/
  start : ¬ startTag.toList <:+: line.toList
  /-- It has no end tag. -/
  finish : ¬ endTag.toList <:+: line.toList

theorem Quiet.lacks_start {line : String} (h : Quiet line) (r : String) :
    ¬ (Marker.start r).toList <:+: line.toList := fun hi =>
  h.start ((startTag_infix_start r).trans hi)

theorem Quiet.lacks_finish {line : String} (h : Quiet line) (r : String) :
    ¬ (Marker.finish r).toList <:+: line.toList := fun hi =>
  h.finish ((endTag_infix_finish r).trans hi)

/-- A line without the markers of a request. -/
structure Unmarked (requestId line : String) : Prop where
  /-- It has no start marker. -/
  start : ¬ (Marker.start requestId).toList <:+: line.toList
  /-- It has no end marker. -/
  finish : ¬ (Marker.finish requestId).toList <:+: line.toList

theorem Quiet.unmarked {line : String} (h : Quiet line) (r : String) : Unmarked r line :=
  ⟨h.lacks_start r, h.lacks_finish r⟩

/-- The status line of a reply. -/
def statusLine (s : Status) : String := statusTag ++ String.ofList (decimal s.code) ++ ";"

/-- The body line of a reply. -/
def bodyLine (body : String) : String := bodyTag ++ body

theorem toList_statusLine (s : Status) :
    (statusLine s).toList = "CMD_STATUS_CODE".toList ++ '=' :: (decimal s.code ++ [';']) := by
  have htag : statusTag.toList = "CMD_STATUS_CODE".toList ++ ['='] := by rfl
  rw [statusLine, String.toList_append, String.toList_append, String.toList_ofList, htag]
  simp

theorem toList_bodyLine (body : String) :
    (bodyLine body).toList = "CMD_OUTPUT_BODY".toList ++ '=' :: body.toList := by
  have htag : bodyTag.toList = "CMD_OUTPUT_BODY".toList ++ ['='] := by rfl
  rw [bodyLine, String.toList_append, htag]
  simp

theorem equals_notMem_decimal (n : Nat) : '=' ∉ decimal n ++ [';'] := by
  intro h
  rcases List.mem_append.1 h with h | h
  · obtain ⟨d, hd, heq⟩ := exists_of_mem_decimal h
    exact absurd heq ((by decide : ∀ d < 10, '=' ≠ digitChar d) d hd)
  · simp at h

theorem quiet_statusLine (s : Status) : Quiet (statusLine s) := by
  constructor
  · intro h
    rw [toList_startTag, toList_statusLine] at h
    rcases suffix_or_infix_of_sign (by decide) (by decide) h with h | h
    · exact absurd h (by decide)
    · exact equals_notMem_decimal s.code (h.subset (by simp))
  · intro h
    rw [toList_endTag, toList_statusLine] at h
    rcases suffix_or_infix_of_sign (by decide) (by decide) h with h | h
    · exact absurd h (by decide)
    · exact equals_notMem_decimal s.code (h.subset (by simp))

theorem not_finish_infix_bodyLine {r body : String}
    (h : ¬ (finish r).toList <:+: body.toList) : ¬ (finish r).toList <:+: (bodyLine body).toList := by
  intro hi
  rw [bodyLine, String.toList_append] at hi
  exact h (finish_infix_of_tagged (by decide) (by decide) (by decide) hi)

theorem quiet_bodyLine {body : String} (hq : Quiet body) : Quiet (bodyLine body) := by
  constructor
  · intro h
    rw [toList_startTag, toList_bodyLine] at h
    rcases suffix_or_infix_of_sign (by decide) (by decide) h with h | h
    · exact absurd h (by decide)
    · exact hq.start (by rwa [toList_startTag])
  · intro h
    rw [toList_endTag, toList_bodyLine] at h
    rcases suffix_or_infix_of_sign (by decide) (by decide) h with h | h
    · exact absurd h (by decide)
    · exact hq.finish (by rwa [toList_endTag])

end Marker

namespace Decoder

open Marker

/-! ### Reading a block -/

/-- A decoder that has read nothing of a request. -/
def fresh (requestId : String) : Decoder := { requestId }

theorem completes_iff {d : Decoder} {line : String} :
    d.completes line = true ↔ (finish d.requestId).toList <:+: line.toList := contains_iff

theorem starts_iff {d : Decoder} {line : String} :
    d.starts line = true ↔ (start d.requestId).toList <:+: line.toList := contains_iff

theorem completes_eq_false_iff {d : Decoder} {line : String} :
    d.completes line = false ↔ ¬ (finish d.requestId).toList <:+: line.toList := by
  rw [← completes_iff, Bool.not_eq_true]

theorem starts_eq_false_iff {d : Decoder} {line : String} :
    d.starts line = false ↔ ¬ (start d.requestId).toList <:+: line.toList := by
  rw [← starts_iff, Bool.not_eq_true]

/-- Lines without the markers of its request leave a decoder that records nothing as it is. -/
theorem foldl_next_fresh {r : String} {lines : List String} (h : ∀ l ∈ lines, Unmarked r l) :
    lines.foldl next (fresh r) = fresh r := by
  induction lines with
  | nil => rfl
  | cons l lines ih =>
    obtain ⟨hs, hf⟩ := h l List.mem_cons_self
    have hc : (fresh r).completes l = false := completes_eq_false_iff.2 hf
    have hst : (fresh r).starts l = false := starts_eq_false_iff.2 hs
    have hnext : (fresh r).next l = fresh r := by
      unfold next
      rw [if_neg (by simp [hc]), if_pos (by rfl), hst]
      rfl
    rw [List.foldl_cons, hnext]
    exact ih fun m hm => h m (List.mem_cons_of_mem _ hm)

/-- A number is read as a word of sixteen bits if it is one. -/
theorem readWord?_decimal {n : Nat} (h : n ≤ 65535) : readWord? (decimal n) = some n := by
  have hplus : after? ['+'] (decimal n) = none := by
    refine Option.eq_none_iff_forall_ne_some.2 fun t ht => ?_
    have hmem : '+' ∈ decimal n := by
      rw [after?_eq_some_iff.1 ht]
      exact List.mem_cons_self
    obtain ⟨d, hd, heq⟩ := exists_of_mem_decimal hmem
    exact (by decide : ∀ d < 10, '+' ≠ digitChar d) d hd heq
  rw [readWord?, hplus, Option.getD_none, read?_decimal]
  exact if_pos h

/-- The text of a status line denotes the status. -/
theorem parseStatus_decimal (s : Status) : parseStatus (decimal s.code ++ [';']) = some s := by
  have hblank : ∀ z ∈ decimal s.code, isBlank z = false := by
    intro z hz
    obtain ⟨d, hd, rfl⟩ := exists_of_mem_decimal hz
    exact (by decide : ∀ d < 10, isBlank (digitChar d) = false) d hd
  have hsemicolon : ∀ z ∈ decimal s.code, (z == ';') = false := by
    intro z hz
    obtain ⟨d, hd, rfl⟩ := exists_of_mem_decimal hz
    exact (by decide : ∀ d < 10, (digitChar d == ';') = false) d hd
  have hend : trimEnd (decimal s.code ++ [';']) = decimal s.code ++ [';'] :=
    dropEndWhile_of_getLast? fun z hz => by
      rw [List.getLast?_concat, Option.mem_some_iff] at hz
      rw [← hz]
      rfl
  have hword : s.code ≤ 65535 := Nat.le_trans s.code_le (by decide)
  rw [parseStatus, hend, dropEndWhile_concat (by rfl), dropEndWhile_of_forall hsemicolon,
    trim_of_forall hblank, readWord?_decimal hword, Option.bind_some, Status.ofNat?,
    dif_pos ⟨s.le_code, s.code_le⟩]

theorem statusText?_statusLine (s : Status) :
    statusText? (statusLine s) = some (decimal s.code ++ [';']) := by
  have htag : statusTag.toList = "CMD_STATUS_CODE".toList ++ ['='] := by rfl
  rw [statusText?, after?_eq_some_iff, toList_statusLine, htag]
  simp

theorem statusText?_bodyLine (body : String) : statusText? (bodyLine body) = none := by
  rw [statusText?, toList_bodyLine]
  rfl

theorem bodyText_bodyLine (body : String) : bodyText (bodyLine body) = body := by
  have htag : bodyTag.toList = "CMD_OUTPUT_BODY".toList ++ ['='] := by rfl
  have htext : after? bodyTag.toList (bodyLine body).toList = some body.toList := by
    rw [after?_eq_some_iff, toList_bodyLine, htag]
    simp
  rw [bodyText, htext]
  exact String.ofList_toList

/-- The lines of a block before its end marker. -/
def opened (requestId : String) (r : Reply) : List String :=
  [start requestId, statusLine r.status, bodyLine r.body]

/-- A block has the end marker of its request only in its last line, if the body has none. -/
theorem not_finish_infix_of_mem_opened {requestId : String} {r : Reply}
    (h : ¬ (finish requestId).toList <:+: r.body.toList) {t : String}
    (ht : t ∈ opened requestId r) : ¬ (finish requestId).toList <:+: t.toList := by
  simp only [opened, List.mem_cons, List.not_mem_nil, or_false] at ht
  rcases ht with rfl | rfl | rfl
  · exact not_finish_infix_own_start requestId
  · exact (quiet_statusLine r.status).lacks_finish requestId
  · exact not_finish_infix_bodyLine h

/-- A decoder that has read a block up to its end marker has the reply. -/
theorem reply_foldl_opened {requestId : String} {r : Reply}
    (hbody : ¬ (finish requestId).toList <:+: r.body.toList) :
    ((opened requestId r).foldl next (fresh requestId)).reply = r := by
  have hstart : (fresh requestId).next (start requestId) =
      { fresh requestId with recording := true } := by
    have hc : (fresh requestId).completes (start requestId) = false :=
      completes_eq_false_iff.2 (not_finish_infix_own_start requestId)
    have hs : (fresh requestId).starts (start requestId) = true := starts_iff.2 List.infix_rfl
    unfold next
    rw [if_neg (by simp [hc]), if_pos (by rfl), hs]
  have hstatus : ({ fresh requestId with recording := true } : Decoder).next (statusLine r.status) =
      { fresh requestId with recording := true, status := r.status } := by
    have hc : ({ fresh requestId with recording := true } : Decoder).completes
        (statusLine r.status) = false :=
      completes_eq_false_iff.2 ((quiet_statusLine r.status).lacks_finish _)
    unfold next
    rw [if_neg (by simp [hc]), if_neg (by simp), statusText?_statusLine]
    simp only [parseStatus_decimal, Option.getD_some]
  have hline : ({ fresh requestId with recording := true, status := r.status } : Decoder).next
      (bodyLine r.body) =
      { fresh requestId with recording := true, status := r.status, body := [r.body] } := by
    have hc : ({ fresh requestId with recording := true, status := r.status } : Decoder).completes
        (bodyLine r.body) = false :=
      completes_eq_false_iff.2 (not_finish_infix_bodyLine hbody)
    unfold next
    rw [if_neg (by simp [hc]), if_neg (by simp), statusText?_bodyLine]
    simp [bodyText_bodyLine, fresh]
  rw [opened, List.foldl_cons, List.foldl_cons, List.foldl_cons, List.foldl_nil, hstart, hstatus,
    hline]
  simp [reply]

end Decoder

end FunctionHost
