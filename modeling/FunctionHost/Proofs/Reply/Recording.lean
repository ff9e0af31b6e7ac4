import FunctionHost.Proofs.Reply.Block
import Mathlib.Data.List.Infix
import Mathlib.Data.List.Induction
/-!
# What a decoder has recorded

A decoder is a state that changes line by line. What it has after any lines can be read off the
lines themselves: a line is recorded if the last marker before it is a start marker (`Recorded`),
and status, body and complaints are those of the recorded lines (`recorded`), taken together. This
holds of lines past an end marker too, where a decoder goes on if it is fed.

Main statements: `foldl_next_fresh_eq`, the decoder after some lines as a function of these lines;
and `decodes_recorded`, everything that it gives on the way.
-/

namespace FunctionHost.Decoder

open FunctionHost.Http FunctionHost.Text FunctionHost.Marker

/-! ### Which lines are recorded -/

/-- After these lines of output the reply is open: one of them has the start marker, and neither it
nor a later one has the end marker. -/
def Open (r : String) (lines : List String) : Prop :=
  ∃ before line after, lines = before ++ line :: after ∧ (start r).toList <:+: line.toList ∧
    ∀ l ∈ line :: after, ¬ (finish r).toList <:+: l.toList

/-- A line is recorded after the lines `before`. -/
def Recorded (r : String) (before : List String) (line : String) : Prop :=
  ¬ (finish r).toList <:+: line.toList ∧ Open r before

section

variable {r : String} {lines : List String} {line : String}

theorem not_open_nil : ¬ Open r [] := by
  rintro ⟨before, line, after, h, -⟩
  simp at h

/-- A line without the end marker leaves a reply open, or opens it with a start marker. -/
theorem open_concat_iff : Open r (lines ++ [line]) ↔
    ¬ (finish r).toList <:+: line.toList ∧
      (Open r lines ∨ (start r).toList <:+: line.toList) := by
  constructor
  · rintro ⟨before, opener, after, heq, hstart, hno⟩
    rcases List.eq_nil_or_concat after with rfl | ⟨after, last, rfl⟩
    · obtain ⟨rfl, h⟩ := List.append_inj' heq rfl
      obtain rfl : line = opener := by simpa using h
      exact ⟨hno line (by simp), .inr hstart⟩
    · rw [List.concat_eq_append, ← List.cons_append, ← List.append_assoc] at heq
      obtain ⟨rfl, h⟩ := List.append_inj' heq rfl
      obtain rfl : line = last := by simpa using h
      refine ⟨hno line (by simp), .inl ⟨before, opener, after, rfl, hstart, ?_⟩⟩
      intro l hl
      apply hno
      rw [List.concat_eq_append, ← List.cons_append]
      exact List.mem_append_left _ hl
  · rintro ⟨hline, ⟨before, opener, after, rfl, hstart, hno⟩ | hstart⟩
    · refine ⟨before, opener, after ++ [line], by simp, hstart, ?_⟩
      intro l hl
      rw [← List.cons_append, List.mem_append, List.mem_singleton] at hl
      rcases hl with hl | rfl
      · exact hno l hl
      · exact hline
    · exact ⟨lines, line, [], rfl, hstart, by simpa using hline⟩

/-- Whether a reply is open shows from the end: among the lines after the last end marker there is
one with the start marker. -/
def isOpen (r : String) (lines : List String) : Bool :=
  (lines.reverse.takeWhile fun l => !contains (finish r).toList l.toList).any fun l =>
    contains (start r).toList l.toList

theorem isOpen_eq_true_iff : isOpen r lines = true ↔ Open r lines := by
  induction lines using List.reverseRecOn with
  | nil => simp [isOpen, not_open_nil]
  | append_singleton lines line ih =>
    rw [open_concat_iff, ← ih, isOpen, isOpen, List.reverse_concat]
    by_cases h : (finish r).toList <:+: line.toList
    · simp [contains_iff.2 h, h]
    · have hc : contains (finish r).toList line.toList = false := by
        rw [← Bool.not_eq_true, contains_iff]
        exact h
      simp [hc, h, contains_iff, or_comm]

instance (r : String) (lines : List String) : Decidable (Open r lines) :=
  decidable_of_iff (isOpen r lines = true) isOpen_eq_true_iff

instance (r : String) (before : List String) (line : String) :
    Decidable (Recorded r before line) := inferInstanceAs (Decidable (_ ∧ _))

end

/-- The lines, each with those before it. -/
def placed (lines : List String) : List (List String × String) := lines.inits.zip lines

/-- The recorded lines, each with all lines before it. -/
def recorded (r : String) (lines : List String) : List (List String × String) :=
  (placed lines).filter fun p => Recorded r p.1 p.2

theorem placed_concat (lines : List String) (line : String) :
    placed (lines ++ [line]) = placed lines ++ [(lines, line)] := by
  induction lines with
  | nil => rfl
  | cons l lines ih =>
    unfold placed at ih ⊢
    rw [List.cons_append, List.inits_cons, List.inits_cons, List.zip_cons_cons,
      List.zip_cons_cons, List.zip_map_left, List.zip_map_left, ih]
    simp

theorem recorded_concat (r : String) (lines : List String) (line : String) :
    recorded r (lines ++ [line]) =
      recorded r lines ++ if Recorded r lines line then [(lines, line)] else [] := by
  unfold recorded
  rw [placed_concat, List.filter_append]
  by_cases h : Recorded r lines line <;> simp [h]

/-! ### What recorded lines say -/

/-- The status that a line denotes: the line begins with the status tag, and what follows is the
text of a status. -/
def statusOf? (line : String) : Option Status :=
  if statusTag.toList <+: line.toList then parseStatus (line.toList.drop statusTag.length)
  else none

/-- The line begins with the status tag, but what follows is not the text of a status. -/
def misstates (line : String) : Bool :=
  statusTag.toList <+: line.toList ∧ statusOf? line = none

/-- What a line without the status tag says of the body: what follows the body tag, or the whole
line with a `Y` in front if it has none. -/
def bodyOf? (line : String) : Option String :=
  if statusTag.toList <+: line.toList then none
  else if bodyTag.toList <+: line.toList then
    some (String.ofList (line.toList.drop bodyTag.length))
  else some ("Y" ++ line)

/-- The status that lines give: the last one that a recorded line denotes. -/
def statusOf (r : String) (lines : List String) : Status :=
  ((recorded r lines).filterMap fun p => statusOf? p.2).getLast?.getD .ok

/-- The parts of the body that lines give. -/
def bodyOf (r : String) (lines : List String) : List String :=
  (recorded r lines).filterMap fun p => bodyOf? p.2

/-- What is to be complained about in lines: each recorded status line that denotes no status, with
the status that the lines before it give. -/
def complaintsOf (r : String) (lines : List String) : List BadStatus :=
  ((recorded r lines).filter fun p => misstates p.2).map fun p => ⟨r, p.2, statusOf r p.1⟩

section

variable {r : String} {lines : List String} {line : String}

theorem statusOf_concat : statusOf r (lines ++ [line]) =
    if Recorded r lines line then (statusOf? line).getD (statusOf r lines)
    else statusOf r lines := by
  unfold statusOf
  rw [recorded_concat, List.filterMap_append]
  by_cases h : Recorded r lines line
  · cases hs : statusOf? line <;> simp [h, hs]
  · simp [h]

theorem bodyOf_concat : bodyOf r (lines ++ [line]) =
    bodyOf r lines ++ if Recorded r lines line then (bodyOf? line).toList else [] := by
  unfold bodyOf
  rw [recorded_concat, List.filterMap_append]
  by_cases h : Recorded r lines line
  · cases hb : bodyOf? line <;> simp [h, hb]
  · simp [h]

theorem complaintsOf_concat : complaintsOf r (lines ++ [line]) = complaintsOf r lines ++
    if Recorded r lines line ∧ misstates line = true then [⟨r, line, statusOf r lines⟩]
    else [] := by
  unfold complaintsOf
  rw [recorded_concat, List.filter_append, List.map_append]
  by_cases h : Recorded r lines line
  · cases hm : misstates line <;> simp [h, hm]
  · simp [h]

/-! ### What a decoder makes of a line -/

theorem drop_length_of_prefix {tag text : List Char} (h : tag <+: text) :
    after? tag text = some (text.drop tag.length) := by
  obtain ⟨rest, rfl⟩ := h
  rw [after?_eq_some_iff, List.drop_left]

theorem after?_of_not_prefix {tag text : List Char} (h : ¬ tag <+: text) :
    after? tag text = none := by
  rw [Option.eq_none_iff_forall_ne_some]
  rintro rest hrest
  exact h ⟨rest, (after?_eq_some_iff.1 hrest).symm⟩

/-- A line with the end marker ends the recording. -/
theorem next_of_completes {d : Decoder} (h : d.completes line = true) :
    d.next line = { d with recording := false } := if_pos h

/-- Before a start marker nothing is recorded. -/
theorem next_of_closed {d : Decoder} (hc : d.completes line = false) (hr : ¬ d.recording = true) :
    d.next line = { d with recording := d.starts line } := by
  unfold next
  rw [if_neg (by simp [hc]), if_pos (by simp [hr])]

/-- A recorded status line sets the status if it denotes one. -/
theorem next_of_status {d : Decoder} (hc : d.completes line = false) (hr : d.recording = true)
    (ht : statusTag.toList <+: line.toList) :
    d.next line = { d with status := (statusOf? line).getD d.status } := by
  unfold next
  rw [if_neg (by simp [hc]), if_neg (by simp [hr]), statusText?, drop_length_of_prefix ht,
    statusOf?, if_pos ht]
  rfl

/-- Any other recorded line goes to the body. -/
theorem next_of_body {d : Decoder} (hc : d.completes line = false) (hr : d.recording = true)
    (ht : ¬ statusTag.toList <+: line.toList) :
    d.next line = { d with body := d.body ++ (bodyOf? line).toList } := by
  unfold next
  rw [if_neg (by simp [hc]), if_neg (by simp [hr]), statusText?, after?_of_not_prefix ht, bodyOf?,
    if_neg ht, bodyText]
  by_cases hb : bodyTag.toList <+: line.toList
  · rw [if_pos hb, drop_length_of_prefix hb]
    rfl
  · rw [if_neg hb, after?_of_not_prefix hb]
    simp [untaggedMark, String.ofList_cons]

/-- A complaint is about a recorded status line that denotes no status. -/
theorem complaint?_eq (d : Decoder) (line : String) : d.complaint? line =
    if d.records line = true ∧ misstates line = true then some ⟨d.requestId, line, d.status⟩
    else none := by
  unfold complaint?
  by_cases hr : d.records line = true
  · by_cases ht : statusTag.toList <+: line.toList
    · rw [if_pos hr, statusText?, drop_length_of_prefix ht, String.length_toList]
      simp [hr, misstates, statusOf?, ht]
    · rw [if_pos hr, statusText?, after?_of_not_prefix ht]
      simp [misstates, ht]
  · simp [hr]

end

/-! ### The decoder after lines -/

/-- The complaints of a decoder that is fed lines, whether they complete the reply or not. -/
def complaintsFrom (d : Decoder) : List String → List BadStatus
  | [] => []
  | line :: lines => (d.complaint? line).toList ++ (d.next line).complaintsFrom lines

theorem complaintsFrom_concat (d : Decoder) (lines : List String) (line : String) :
    d.complaintsFrom (lines ++ [line]) =
      d.complaintsFrom lines ++ ((lines.foldl next d).complaint? line).toList := by
  induction lines generalizing d with
  | nil => simp [complaintsFrom]
  | cons l lines ih => simp [complaintsFrom, ih]

section

variable {r : String} {lines : List String} {line : String}

/-- A decoder after some lines is determined by the lines: it records if the reply is open, and has
the status and the body that they give. -/
theorem foldl_next_fresh_eq : lines.foldl next (fresh r) =
    ⟨r, isOpen r lines, statusOf r lines, bodyOf r lines⟩ := by
  induction lines using List.reverseRecOn with
  | nil => rfl
  | append_singleton lines line ih =>
    rw [List.foldl_concat, statusOf_concat, bodyOf_concat]
    generalize lines.foldl next (fresh r) = d at ih ⊢
    have hcompletes : d.completes line = true ↔ (finish r).toList <:+: line.toList := by
      rw [completes_iff, ih]
    have hopen : isOpen r (lines ++ [line]) = true ↔
        ¬ (finish r).toList <:+: line.toList ∧ (d.recording = true ∨ d.starts line = true) := by
      rw [isOpen_eq_true_iff, open_concat_iff, ← isOpen_eq_true_iff, starts_iff, ih]
    have hrecorded : Recorded r lines line ↔
        ¬ (finish r).toList <:+: line.toList ∧ d.recording = true := by
      rw [Recorded, ← isOpen_eq_true_iff, ih]
    by_cases hf : (finish r).toList <:+: line.toList
    · -- the end marker closes the reply, and its line is not recorded
      have hclosed : isOpen r (lines ++ [line]) = false := by
        rw [← Bool.not_eq_true, hopen]
        exact fun h => h.1 hf
      rw [next_of_completes (hcompletes.2 hf), hclosed, if_neg fun h => (hrecorded.1 h).1 hf,
        if_neg fun h => (hrecorded.1 h).1 hf, ih]
      simp
    · have hc : d.completes line = false := by
        rw [← Bool.not_eq_true, hcompletes]
        exact hf
      by_cases hr : d.recording = true
      · have hstays : isOpen r (lines ++ [line]) = true := hopen.2 ⟨hf, .inl hr⟩
        rw [hstays, if_pos (hrecorded.2 ⟨hf, hr⟩), if_pos (hrecorded.2 ⟨hf, hr⟩)]
        by_cases ht : statusTag.toList <+: line.toList
        · rw [next_of_status hc hr ht, bodyOf?, if_pos ht, ih]
          simp [← hr, ih]
        · rw [next_of_body hc hr ht, statusOf?, if_neg ht, ih]
          simp [← hr, ih]
      · -- before the start marker nothing is recorded
        have hstarts : isOpen r (lines ++ [line]) = d.starts line := by
          rw [Bool.eq_iff_iff, hopen]
          simp [hf, hr]
        rw [next_of_closed hc hr, hstarts, if_neg fun h => hr (hrecorded.1 h).2,
          if_neg fun h => hr (hrecorded.1 h).2, ih]
        simp

theorem records_iff : (lines.foldl next (fresh r)).records line = true ↔ Recorded r lines line := by
  rw [records, Bool.and_eq_true, Bool.not_eq_true', completes_foldl_next,
    completes_eq_false_iff, foldl_next_fresh_eq, isOpen_eq_true_iff]
  rfl

/-- A decoder that is fed lines complains about those that are to be complained about. -/
theorem complaintsFrom_fresh : (fresh r).complaintsFrom lines = complaintsOf r lines := by
  induction lines using List.reverseRecOn with
  | nil => rfl
  | append_singleton lines line ih =>
    rw [complaintsFrom_concat, complaintsOf_concat, ih, complaint?_eq]
    simp only [records_iff]
    rw [foldl_next_fresh_eq]
    split <;> rfl

end

/-- What a decoder gives for lines, also for lines after an end marker. It takes a line as complete
exactly if the line has the end marker. It records a line exactly if the line has no end marker, and
a line before it has the start marker and no end marker, with no end marker between the two. The
status is the last one that a recorded line denotes, and 200 if there is none; the body has the
recorded lines without the status tag, in order, each without its body tag or with a `Y` in front;
and it complains, once and in order, about the recorded lines with the status tag that denote no
status. -/
theorem decodes_recorded (r : String) (lines : List String) :
    (∀ line, (lines.foldl next (fresh r)).completes line = true ↔
      (finish r).toList <:+: line.toList) ∧
    (∀ line, (lines.foldl next (fresh r)).records line = true ↔
      ¬ (finish r).toList <:+: line.toList ∧ ∃ before opener between,
        lines = before ++ opener :: between ∧ (start r).toList <:+: opener.toList ∧
        ¬ (finish r).toList <:+: opener.toList ∧
        ∀ l ∈ between, ¬ (finish r).toList <:+: l.toList) ∧
    (lines.foldl next (fresh r)).reply =
      ⟨((recorded r lines).filterMap fun p => statusOf? p.2).getLast?.getD .ok,
        "\n".intercalate ((recorded r lines).filterMap fun p => bodyOf? p.2)⟩ ∧
    (fresh r).complaintsFrom lines =
      ((recorded r lines).filter fun p => misstates p.2).map fun p => ⟨r, p.2, statusOf r p.1⟩ := by
  refine ⟨?_, ?_, ?_, complaintsFrom_fresh⟩
  · intro line
    rw [completes_foldl_next, completes_iff]
    rfl
  · intro line
    rw [records_iff, Recorded, Open]
    simp only [List.forall_mem_cons]
  · rw [foldl_next_fresh_eq]
    rfl

/-- A line between two replies is not recorded, and one after a start marker that follows them
is. -/
example : (recorded "r" ["CMD_OUTPUT_START=r;", "a", "CMD_OUTPUT_END=r;", "b",
    "CMD_OUTPUT_START=r;", "CMD_OUTPUT_START=r;"]).map Prod.snd = ["a", "CMD_OUTPUT_START=r;"] := by
  decide +kernel

end FunctionHost.Decoder
