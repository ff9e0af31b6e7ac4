import FunctionHost.Event.Headers
import FunctionHost.Proofs.Text.Blank
import FunctionHost.Proofs.Text.Pieces
import FunctionHost.Proofs.Text.Utf8
/-!
# Writing cookies

A cookie is written as its name and its value with a `=` between them; the value may be in quotation
marks, and must be where its ends would be mistaken (`WrittenValue`). There may be spaces and tabs
around each part. A `Cookie` header has such segments with a `;` between neighbours, and segments
without a name among them (`Segment`, `Line`). A request has any number of such headers, among
others that have no cookies (`Carried`).

Main statement: `reads_carried`, however a list of cookies is written, the cookies of the headers
are this list.
-/

namespace FunctionHost.Cookie

open FunctionHost.Http FunctionHost.Text

/-! ### What is written -/

/-- A visible character of ASCII, or a space. -/
def Visible (z : Char) : Prop := ' ' ≤ z ∧ z ≤ '~'

instance (z : Char) : Decidable (Visible z) := inferInstanceAs (Decidable (' ' ≤ z ∧ z ≤ '~'))

/-- There are spaces at an end. -/
def Padded (s : List Char) : Prop := s.head? = some ' ' ∨ s.getLast? = some ' '

instance (s : List Char) : Decidable (Padded s) :=
  inferInstanceAs (Decidable (s.head? = some ' ' ∨ s.getLast? = some ' '))

/-- A cookie that can be written. -/
structure Writable (c : Cookie) : Prop where
  /-- It has a name. -/
  name_ne_nil : c.name.toList ≠ []
  /-- The name is visible. -/
  name_visible : ∀ z ∈ c.name.toList, Visible z
  /-- The name is not cut. -/
  name_whole : ';' ∉ c.name.toList ∧ '=' ∉ c.name.toList
  /-- The name has no spaces at its ends. -/
  name_unpadded : ¬ Padded c.name.toList
  /-- The value is visible. -/
  value_visible : ∀ z ∈ c.value.toList, Visible z
  /-- The value is not cut. -/
  value_whole : ';' ∉ c.value.toList

/-- Spaces and tabs around a part. -/
def Gap (s : List Char) : Prop := ∀ z ∈ s, z = ' ' ∨ z = '\t'

/-- A way in which a value is written. -/
inductive WrittenValue (v : List Char) : List Char → Prop where
  /-- As it is, if nothing of it would be taken away. -/
  | bare : ¬ Padded v → ¬ (2 ≤ v.length ∧ v.head? = some '\x22' ∧ v.getLast? = some '\x22') →
      WrittenValue v v
  /-- In quotation marks. -/
  | quoted : WrittenValue v ('\x22' :: v ++ ['\x22'])

/-- What stands between two semicolons, and the cookies it is for. -/
inductive Segment : List Char → List Cookie → Prop where
  /-- A cookie. -/
  | cookie {c : Cookie} {a b d e w : List Char} : Gap a → Gap b → Gap d → Gap e →
      WrittenValue c.value.toList w →
      Segment ((a ++ c.name.toList ++ b) ++ '=' :: (d ++ w ++ e)) [c]
  /-- Nothing but spaces and tabs. -/
  | blank {a : List Char} : Gap a → Segment a []
  /-- Something without a name. -/
  | nameless {a t : List Char} : Gap a → (∀ z ∈ t, (Visible z ∨ z = '\t') ∧ z ≠ ';') →
      Segment (a ++ '=' :: t) []

/-- The text of a `Cookie` header, and the cookies it is for. -/
inductive Line : List Char → List Cookie → Prop where
  /-- One segment. -/
  | one {s : List Char} {cs : List Cookie} : Segment s cs → Line s cs
  /-- A segment with a semicolon after it. -/
  | more {s l : List Char} {cs ds : List Cookie} : Segment s cs → Line l ds →
      Line (s ++ ';' :: l) (cs ++ ds)

/-- The headers of a request, and the cookies they are for. -/
inductive Carried : List Header → List Cookie → Prop where
  /-- No headers at all. -/
  | nil : Carried [] []
  /-- A `Cookie` header. -/
  | cookie {l : List Char} {hs : List Header} {cs ds : List Cookie} : Line l cs → Carried hs ds →
      Carried (⟨"cookie", Utf8.encode l⟩ :: hs) (cs ++ ds)
  /-- A `Cookie` header whose value is not text. -/
  | noText {h : Header} {hs : List Header} {cs : List Cookie} : h.name = "cookie" →
      (∃ b ∈ h.value, Header.isTextByte b = false) → Carried hs cs → Carried (h :: hs) cs
  /-- Another header. -/
  | other {h : Header} {hs : List Header} {cs : List Cookie} : h.name ≠ "cookie" →
      Carried hs cs → Carried (h :: hs) cs

/-! ### A value -/

section

variable {v w : List Char}

theorem isBlank_of_visible {z : Char} (h : Visible z) (hz : z ≠ ' ') : isBlank z = false := by
  have hlow : 32 ≤ z.toNat := h.1
  have hhigh : z.toNat ≤ 126 := h.2
  have hne : z.toNat ≠ 32 := fun heq => hz (Char.toNat_inj.1 heq)
  simp [isBlank]
  omega

theorem trim_of_visible (h : ∀ z ∈ v, Visible z) (hpadded : ¬ Padded v) : trim v = v := by
  refine trim_of_ends ?_ ?_
  · intro z hz
    refine isBlank_of_visible (h z (List.mem_of_head? hz)) ?_
    rintro rfl
    exact hpadded (.inl hz)
  · intro z hz
    refine isBlank_of_visible (h z (List.mem_of_getLast? hz)) ?_
    rintro rfl
    exact hpadded (.inr hz)

theorem unquote_quoted (v : List Char) : unquote ('\x22' :: v ++ ['\x22']) = v := by
  have hafter : after? ['\x22'] ('\x22' :: v ++ ['\x22']) = some (v ++ ['\x22']) := by
    rw [after?_eq_some_iff]
    rfl
  rw [unquote, hafter, Option.bind_some, before?_append, Option.getD_some]

/-- Quotation marks are only taken away at both ends. -/
theorem unquote_of_not
    (h : ¬ (2 ≤ v.length ∧ v.head? = some '\x22' ∧ v.getLast? = some '\x22')) : unquote v = v := by
  unfold unquote
  cases hr : (after? ['\x22'] v).bind (before? ['\x22']) with
  | none => rfl
  | some r =>
    obtain ⟨t, ht, hrest⟩ := Option.bind_eq_some_iff.1 hr
    have hv : v = '\x22' :: (r ++ ['\x22']) := by
      rw [after?_eq_some_iff.1 ht, before?_eq_some_iff.1 hrest]
      rfl
    refine absurd ⟨?_, ?_, ?_⟩ h
    · rw [hv]
      simp
    · rw [hv]
      rfl
    · rw [hv, ← List.cons_append, List.getLast?_concat]

/-- What is written of a value has no blanks at its ends, and the value is read from it. -/
theorem WrittenValue.unquote_trim (h : WrittenValue v w) (hv : ∀ z ∈ v, Visible z) :
    unquote (trim w) = v := by
  cases h with
  | bare hpadded hquotes => rw [trim_of_visible hv hpadded, unquote_of_not hquotes]
  | quoted =>
    have htrim : trim ('\x22' :: v ++ ['\x22']) = '\x22' :: v ++ ['\x22'] := by
      refine trim_of_ends ?_ ?_
      · intro z hz
        cases hz
        decide
      · intro z hz
        rw [List.getLast?_concat] at hz
        cases hz
        decide
    rw [htrim, unquote_quoted]

end

/-! ### A segment -/

section

variable {a b s t : List Char} {c : Cookie} {cs : List Cookie}

theorem Gap.isBlank (h : Gap a) : ∀ z ∈ a, isBlank z = true := by
  intro z hz
  rcases h z hz with rfl | rfl <;> decide

theorem trim_gaps (ha : Gap a) (hb : Gap b) (s : List Char) : trim (a ++ s ++ b) = trim s := by
  rw [trim_append hb.isBlank, trim_append_left ha.isBlank]

/-- A segment is read on both sides of its first `=`. -/
theorem cookieOf?_append (ha : '=' ∉ a) (t : List Char) : cookieOf? (a ++ '=' :: t) =
    if (trim a).isEmpty then none
    else some ⟨String.ofList (trim a), String.ofList (unquote (trim t))⟩ := by
  have hstart : '=' ∉ a.dropWhile isBlank := fun h => ha ((List.dropWhile_suffix _).mem h)
  rw [cookieOf?, trim_append_cons (by decide), cutAt?_append hstart]
  simp only [Option.getD_some, trim_dropWhile, trim_trimEnd]

theorem Gap.notMem {z : Char} (h : Gap a) (hz : z ≠ ' ' ∧ z ≠ '\t') : z ∉ a := by
  intro hmem
  rcases h z hmem with rfl | rfl
  · exact hz.1 rfl
  · exact hz.2 rfl

/-- The cookies are read from a segment. -/
theorem Segment.read (h : Segment s cs) (hw : ∀ c ∈ cs, c.Writable) :
    (cookieOf? s).toList = cs := by
  cases h with
  | @cookie c a b d e w ha hb hd he hvalue =>
    have hc : c.Writable := hw c (List.mem_singleton_self c)
    have hequals : '=' ∉ a ++ c.name.toList ++ b := by
      simp only [List.mem_append, not_or]
      exact ⟨⟨ha.notMem (by decide), hc.name_whole.2⟩, hb.notMem (by decide)⟩
    have hname : trim (a ++ c.name.toList ++ b) = c.name.toList := by
      rw [trim_gaps ha hb, trim_of_visible hc.name_visible hc.name_unpadded]
    rw [cookieOf?_append hequals, hname, trim_gaps hd he, hvalue.unquote_trim hc.value_visible]
    simp [hc.name_ne_nil]
  | blank ha =>
    have hempty : cutAt? '=' [] = none := rfl
    rw [cookieOf?, trim_of_blank ha.isBlank, hempty]
    rfl
  | nameless ha ht =>
    rw [cookieOf?_append (ha.notMem (by decide)), trim_of_blank ha.isBlank]
    rfl

/-- A segment is text without a semicolon. -/
theorem Segment.text (h : Segment s cs) (hw : ∀ c ∈ cs, c.Writable) :
    ∀ z ∈ s, (Visible z ∨ z = '\t') ∧ z ≠ ';' := by
  have hgap : ∀ {a : List Char}, Gap a → ∀ z ∈ a, (Visible z ∨ z = '\t') ∧ z ≠ ';' := by
    intro a ha z hz
    rcases ha z hz with rfl | rfl
    · exact ⟨.inl ⟨by decide, by decide⟩, by decide⟩
    · exact ⟨.inr rfl, by decide⟩
  have hmark : ∀ z ∈ ['=', '\x22'], (Visible z ∨ z = '\t') ∧ z ≠ ';' := by
    intro z hz
    simp only [List.mem_cons, List.not_mem_nil, or_false] at hz
    rcases hz with rfl | rfl <;> exact ⟨.inl ⟨by decide, by decide⟩, by decide⟩
  cases h with
  | @cookie c a b d e w ha hb hd he hvalue =>
    have hc : c.Writable := hw c (List.mem_singleton_self c)
    have hname : ∀ z ∈ c.name.toList, (Visible z ∨ z = '\t') ∧ z ≠ ';' := fun z hz =>
      ⟨.inl (hc.name_visible z hz), fun heq => hc.name_whole.1 (heq ▸ hz)⟩
    have hv : ∀ z ∈ c.value.toList, (Visible z ∨ z = '\t') ∧ z ≠ ';' := fun z hz =>
      ⟨.inl (hc.value_visible z hz), fun heq => hc.value_whole (heq ▸ hz)⟩
    have hwritten : ∀ z ∈ w, (Visible z ∨ z = '\t') ∧ z ≠ ';' := by
      intro z hz
      cases hvalue with
      | bare => exact hv z hz
      | quoted =>
        simp only [List.cons_append, List.mem_cons, List.mem_append, List.not_mem_nil,
          or_false] at hz
        rcases hz with rfl | hz | rfl
        · exact hmark _ (by decide)
        · exact hv z hz
        · exact hmark _ (by decide)
    intro z hz
    simp only [List.mem_append, List.mem_cons] at hz
    rcases hz with ((hz | hz) | hz) | rfl | (hz | hz) | hz
    · exact hgap ha z hz
    · exact hname z hz
    · exact hgap hb z hz
    · exact hmark _ (by decide)
    · exact hgap hd z hz
    · exact hwritten z hz
    · exact hgap he z hz
  | blank ha => exact hgap ha
  | nameless ha ht =>
    intro z hz
    simp only [List.mem_append, List.mem_cons] at hz
    rcases hz with hz | rfl | hz
    · exact hgap ha z hz
    · exact hmark _ (by decide)
    · exact ht z hz

/-! ### Headers -/

theorem Line.text {l : List Char} (h : Line l cs) (hw : ∀ c ∈ cs, c.Writable) :
    ∀ z ∈ l, Visible z ∨ z = '\t' := by
  induction h with
  | one hs => exact fun z hz => (hs.text hw z hz).1
  | more hs _ ih =>
    rw [List.forall_mem_append] at hw
    intro z hz
    rw [List.mem_append, List.mem_cons] at hz
    rcases hz with hz | rfl | hz
    · exact (hs.text hw.1 z hz).1
    · exact .inl ⟨by decide, by decide⟩
    · exact ih hw.2 z hz

/-- The cookies are read from a line. -/
theorem Line.read {l : List Char} (h : Line l cs) (hw : ∀ c ∈ cs, c.Writable) :
    cookiesOfLine l = cs := by
  have hone : ∀ {s : List Char} {cs : List Cookie}, Segment s cs → (∀ c ∈ cs, c.Writable) →
      cutAll ';' s = [s] ∧ [s].filterMap cookieOf? = cs := by
    intro s cs hs hw
    refine ⟨cutAll_of_notMem fun hmem => (hs.text hw _ hmem).2 rfl, ?_⟩
    rw [← hs.read hw]
    cases hc : cookieOf? s <;> simp [hc]
  unfold cookiesOfLine
  induction h with
  | one hs =>
    obtain ⟨hcut, hread⟩ := hone hs hw
    rw [hcut, hread]
  | more hs _ ih =>
    rw [List.forall_mem_append] at hw
    obtain ⟨hcut, hread⟩ := hone hs hw.1
    rw [cutAll_append, hcut, List.filterMap_append, hread, ih hw.2]

/-- The text of a header is read from its bytes. -/
theorem text?_encode {l : List Char} (h : ∀ z ∈ l, Visible z ∨ z = '\t') (name : String) :
    Header.text? ⟨name, Utf8.encode l⟩ = some l := by
  have hbytes : (Utf8.encode l).all Header.isTextByte = true ∧
      (Utf8.encode l).map (fun b => Char.ofNat b.toNat) = l := by
    induction l with
    | nil => exact ⟨rfl, rfl⟩
    | cons z l ih =>
      rw [List.forall_mem_cons] at h
      obtain ⟨htext, hread⟩ := ih h.2
      have hz : (32 ≤ z.toNat ∧ z.toNat < 127) ∨ z.toNat = 9 := by
        rcases h.1 with ⟨hlow, hhigh⟩ | rfl
        · exact .inl ⟨hlow, Nat.lt_succ_of_le hhigh⟩
        · exact .inr rfl
      have hlt : z.toNat < 0x80 := by omega
      have hnat := Utf8.toNat_ofNat_of_lt (Nat.lt_trans hlt (by omega : 0x80 < 256))
      have hbyte : Header.isTextByte (UInt8.ofNat z.toNat) = true := by
        simp [Header.isTextByte, UInt8.le_iff_toNat_le, UInt8.lt_iff_toNat_lt, ← UInt8.toNat_inj,
          hnat]
        omega
      rw [Utf8.encode_cons_of_lt hlt, List.all_cons, hbyte, htext, List.map_cons, hread, hnat,
        Char.ofNat_toNat]
      exact ⟨rfl, rfl⟩
  rw [Header.text?, if_pos hbytes.1, hbytes.2]

theorem cookies_cons (h : Header) (hs : List Header) : cookies (h :: hs) =
    (if h.name = "cookie" then (h.text?.toList).flatMap cookiesOfLine else []) ++ cookies hs := by
  by_cases hname : h.name = "cookie"
  · cases ht : h.text? <;> simp [cookies, hname, ht]
  · simp [cookies, hname]

/-- The cookies are read from the headers. -/
theorem Carried.read {hs : List Header} (h : Carried hs cs) (hw : ∀ c ∈ cs, c.Writable) :
    cookies hs = cs := by
  induction h with
  | nil => rfl
  | cookie hl _ ih =>
    rw [List.forall_mem_append] at hw
    rw [cookies_cons, if_pos rfl, text?_encode (hl.text hw.1), ih hw.2]
    simp [hl.read hw.1]
  | @noText h _ _ hname hbyte _ ih =>
    have hnone : h.text? = none := by
      obtain ⟨b, hb, hfalse⟩ := hbyte
      refine if_neg fun hall => ?_
      rw [List.all_eq_true.1 hall b hb] at hfalse
      cases hfalse
    rw [cookies_cons, if_pos hname, hnone, ih hw]
    rfl
  | other hname _ ih =>
    rw [cookies_cons, if_neg hname, ih hw]
    rfl

theorem exists_carried (cs : List Cookie) : ∃ hs, Carried hs cs := by
  have hgap : Gap [] := List.forall_mem_nil _
  induction cs with
  | nil => exact ⟨[], .nil⟩
  | cons c cs ih =>
    obtain ⟨hs, hhs⟩ := ih
    exact ⟨_, .cookie (.one (.cookie hgap hgap hgap hgap .quoted)) hhs⟩

end

/-- Every list of cookies can be written. However cookies are written that have names, are visible
and are not cut by a separator, and whatever other headers there are, the cookies of the headers are
those that were written, in the same order. -/
theorem reads_carried (cs : List Cookie) (hw : ∀ c ∈ cs, c.Writable) :
    (∃ hs, Carried hs cs) ∧ ∀ hs, Carried hs cs → cookies hs = cs :=
  ⟨exists_carried cs, fun _ hhs => hhs.read hw⟩

/-- Two cookies, of which one must be in quotation marks, in two headers with others between. -/
theorem reads_carried_in_two_headers :
    let cs : List Cookie := [⟨"a", "x=y"⟩, ⟨"b c", " \""⟩]
    let hs : List Header := [⟨"cookie", Utf8.encode "\ta = x=y;;=z".toList⟩, ⟨"host", [97]⟩,
      ⟨"cookie", [97, 61, 255]⟩, ⟨"cookie", Utf8.encode "b c=\" \"\" ".toList⟩]
    (∀ c ∈ cs, c.Writable) ∧ Carried hs cs ∧ cookies hs = cs := by
  intro cs hs
  have hvisible : ∀ s : List Char, s.all (decide <| Visible ·) = true → ∀ z ∈ s, Visible z :=
    fun s hs z hz => of_decide_eq_true (List.all_eq_true.1 hs z hz)
  have hfirst : Writable ⟨"a", "x=y"⟩ := ⟨by decide, hvisible _ (by decide), by decide, by decide,
    hvisible _ (by decide), by decide⟩
  have hsecond : Writable ⟨"b c", " \""⟩ := ⟨by decide, hvisible _ (by decide), by decide,
    by decide, hvisible _ (by decide), by decide⟩
  have hw : ∀ c ∈ cs, c.Writable :=
    List.forall_mem_cons.2 ⟨hfirst, List.forall_mem_singleton.2 hsecond⟩
  have hnone : Gap [] := List.forall_mem_nil _
  have hspace : Gap [' '] := by simp [Gap]
  have htab : Gap ['\t'] := by simp [Gap]
  have hz : ∀ z ∈ ['z'], (Visible z ∨ z = '\t') ∧ z ≠ ';' :=
    List.forall_mem_singleton.2 ⟨.inl ⟨by decide, by decide⟩, by decide⟩
  have hcarried : Carried hs cs := by
    have hfirst : Line "\ta = x=y;;=z".toList [⟨"a", "x=y"⟩] := by
      have hsplit : "\ta = x=y;;=z".toList = (['\t'] ++ "a".toList ++ [' ']) ++
          '=' :: ([' '] ++ "x=y".toList ++ []) ++ ';' :: ([] ++ ';' :: ([] ++ '=' :: ['z'])) := by
        decide
      rw [hsplit]
      exact .more (.cookie (c := ⟨"a", "x=y"⟩) htab hspace hspace hnone
        (.bare (by decide) (by decide))) (.more (.blank hnone) (.one (.nameless hnone hz)))
    have hsecond : Line "b c=\" \"\" ".toList [⟨"b c", " \""⟩] := by
      have hsplit : "b c=\" \"\" ".toList = ([] ++ "b c".toList ++ []) ++
          '=' :: ([] ++ ('\x22' :: " \"".toList ++ ['\x22']) ++ [' ']) := by
        decide
      rw [hsplit]
      exact .one (.cookie (c := ⟨"b c", " \""⟩) hnone hnone hnone hspace .quoted)
    exact .cookie hfirst (.other (by decide) (.noText rfl (by decide) (.cookie hsecond .nil)))
  exact ⟨hw, hcarried, (reads_carried cs hw).2 hs hcarried⟩

end FunctionHost.Cookie
