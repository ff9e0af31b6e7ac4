import FunctionHost.Pool.Basic
import FunctionHost.Proofs.Output.Cut
import FunctionHost.Proofs.Reply.Block
/-!
# Transcripts

An orderly interpreter prints one block for each call that was written to it, in the order of the
calls, and between the blocks any lines without the tags of markers (`Transcript`). Its output stays
without framing all the same: the first bytes of a transcript can end anywhere. Main statements:
`Transcript.silent`, no line has a marker of a request that is not among the calls, and
`Transcript.reply`, a decoder that has read all lines before one with the end marker of a call has
that call's reply.
-/

namespace FunctionHost

open FunctionHost.Text FunctionHost.Output FunctionHost.Marker FunctionHost.Decoder

/-- The id of the request that a call is for. -/
abbrev Call.requestId (c : Call) : String := c.event.requestId

/-- A body that stands on one line, has no tag of a marker, and loses nothing with the line end. -/
structure Printable (body : String) : Prop where
  /-- It has no newline. -/
  newline : '\n' ∉ body.toList
  /-- It has no tag of a marker. -/
  quiet : Quiet body
  /-- It does not end in a carriage return. -/
  ending : body.toList.getLast? ≠ some '\r'

/-- The lines printed for a request. -/
def block (requestId : String) (r : Reply) : List String :=
  opened requestId r ++ [finish requestId]

/-- The bytes of a line of text. -/
def lineBytes (t : String) : List UInt8 := Utf8.encode t.toList

/-- The bytes of a block. -/
def blockBytes (requestId : String) (r : Reply) : List UInt8 :=
  joined ((block requestId r).map lineBytes)

/-- What an interpreter prints for calls, in their order. -/
inductive Transcript (answer : Call → Reply) : List Call → List UInt8 → Prop where
  /-- Nothing yet. -/
  | nil : Transcript answer [] []
  /-- A line between two blocks. -/
  | line {cs : List Call} {bs l : List UInt8} : Transcript answer cs bs → Output.newline ∉ l →
      Quiet (lineText l) → Transcript answer cs (bs ++ joined [l])
  /-- The block of the next call. -/
  | block {cs : List Call} {bs : List UInt8} {c : Call} : Transcript answer cs bs →
      Printable (answer c).body →
      Transcript answer (cs ++ [c]) (bs ++ blockBytes c.requestId (answer c))

/-- The lines of a transcript. -/
inductive Script (answer : Call → Reply) : List Call → List String → Prop where
  /-- Nothing yet. -/
  | nil : Script answer [] []
  /-- A line between two blocks. -/
  | line {cs : List Call} {ls : List String} {t : String} : Script answer cs ls → Quiet t →
      Script answer cs (ls ++ [t])
  /-- The block of the next call. -/
  | block {cs : List Call} {ls : List String} {c : Call} : Script answer cs ls →
      Quiet (answer c).body →
      Script answer (cs ++ [c]) (ls ++ FunctionHost.block c.requestId (answer c))

variable {answer : Call → Reply} {cs : List Call}

/-! ### The lines of a transcript -/

/-- A text without line ends is read back from its bytes, which have no newline. -/
theorem lineText_lineBytes {t : String} (hn : '\n' ∉ t.toList)
    (hr : t.toList.getLast? ≠ some '\r') :
    lineText (lineBytes t) = t ∧ Output.newline ∉ lineBytes t := by
  refine ⟨lineText_encode fun z hz => ?_, newline_notMem_encode hn⟩
  have hzn : z ≠ '\n' := fun he => hn (he ▸ List.mem_of_getLast? hz)
  have hzr : z ≠ '\r' := fun he => hr (he ▸ hz)
  simp [isLineEnd, hzn, hzr]

/-- A text that ends in a semicolon is read back from its bytes. -/
theorem lineText_lineBytes_of_semicolon {t : String} {x : List Char}
    (ht : t.toList = x ++ [';']) (hn : '\n' ∉ x) :
    lineText (lineBytes t) = t ∧ Output.newline ∉ lineBytes t := by
  refine lineText_lineBytes ?_ ?_
  · rw [ht, List.mem_append, not_or]
    exact ⟨hn, by decide⟩
  · rw [ht, List.getLast?_concat]
    decide

theorem newline_notMem_decimal (n : Nat) : '\n' ∉ decimal n := by
  intro h
  obtain ⟨d, hd, heq⟩ := exists_of_mem_decimal h
  exact (by decide : ∀ d < 10, '\n' ≠ digitChar d) d hd heq

theorem newline_notMem_tagged {tag x : List Char} (ht : '\n' ∉ tag) (hx : '\n' ∉ x) :
    '\n' ∉ tag ++ '=' :: x := by
  simp [ht, hx]

/-- The lines of a block are read back from their bytes. -/
theorem lineText_block {r : String} (hr : '\n' ∉ r.toList) {y : Reply}
    (hn : '\n' ∉ y.body.toList) (he : y.body.toList.getLast? ≠ some '\r') {t : String}
    (ht : t ∈ block r y) : lineText (lineBytes t) = t ∧ Output.newline ∉ lineBytes t := by
  simp only [block, opened, List.cons_append, List.nil_append, List.mem_cons, List.not_mem_nil,
    or_false] at ht
  rcases ht with rfl | rfl | rfl | rfl
  · refine lineText_lineBytes_of_semicolon (x := startBase ++ '=' :: r.toList) ?_ ?_
    · rw [toList_start, List.append_assoc, List.cons_append]
    · exact newline_notMem_tagged (by decide) hr
  · refine lineText_lineBytes_of_semicolon
      (x := "CMD_STATUS_CODE".toList ++ '=' :: decimal y.status.code) ?_ ?_
    · rw [toList_statusLine, List.append_assoc, List.cons_append]
    · exact newline_notMem_tagged (by decide) (newline_notMem_decimal _)
  · refine lineText_lineBytes ?_ ?_
    · rw [toList_bodyLine]
      exact newline_notMem_tagged (by decide) hn
    · rw [toList_bodyLine, List.getLast?_append_of_ne_nil _ (List.cons_ne_nil _ _)]
      cases hb : y.body.toList.getLast? with
      | none =>
        rw [List.getLast?_eq_none_iff.1 hb]
        decide
      | some z =>
        rw [List.getLast?_cons, hb, Option.getD_some]
        exact hb ▸ he
  · refine lineText_lineBytes_of_semicolon (x := endBase ++ '=' :: r.toList) ?_ ?_
    · rw [toList_finish, List.append_assoc, List.cons_append]
    · exact newline_notMem_tagged (by decide) hr

/-- A transcript consists of whole lines. -/
theorem Transcript.script {bs : List UInt8} (h : Transcript answer cs bs)
    (hfit : ∀ c ∈ cs, Fit c.requestId) :
    ∃ ls, bs = joined ls ∧ (∀ l ∈ ls, Output.newline ∉ l) ∧ Script answer cs (ls.map lineText) := by
  induction h with
  | nil => exact ⟨[], rfl, by simp, .nil⟩
  | @line cs bs l _ hn hq ih =>
    obtain ⟨ls, rfl, hls, hscript⟩ := ih hfit
    refine ⟨ls ++ [l], (joined_append ls [l]).symm, fun m hm => ?_, ?_⟩
    · rcases List.mem_append.1 hm with hm | hm
      · exact hls m hm
      · rwa [List.mem_singleton.1 hm]
    · rw [List.map_append]
      exact hscript.line hq
  | @block cs bs c _ hb ih =>
    obtain ⟨ls, rfl, hls, hscript⟩ := ih fun d hd => hfit d (List.mem_append_left _ hd)
    have hc : Fit c.requestId := hfit c (List.mem_append_right _ (List.mem_singleton_self _))
    have hblock : ∀ t ∈ FunctionHost.block c.requestId (answer c),
        lineText (lineBytes t) = t ∧ Output.newline ∉ lineBytes t := fun t =>
        lineText_block hc.newline hb.newline hb.ending
    refine ⟨ls ++ (FunctionHost.block c.requestId (answer c)).map lineBytes,
      (joined_append _ _).symm, fun m hm => ?_, ?_⟩
    · rcases List.mem_append.1 hm with hm | hm
      · exact hls m hm
      · obtain ⟨t, ht, rfl⟩ := List.mem_map.1 hm
        exact (hblock t ht).2
    · have hread : ((FunctionHost.block c.requestId (answer c)).map lineBytes).map lineText =
          FunctionHost.block c.requestId (answer c) := by
        rw [List.map_map]
        exact (List.map_congr_left fun t ht => (hblock t ht).1).trans (List.map_id _)
      rw [List.map_append, hread]
      exact hscript.block hb.quiet

/-! ### Markers in a transcript -/

/-- A member of a list that is put together stands in the first part or in the second. -/
theorem append_eq_append_cons {α : Type} {as bs before rest : List α} {x : α}
    (h : as ++ bs = before ++ x :: rest) :
    (∃ u, as = before ++ x :: u) ∨ ∃ u, before = as ++ u ∧ bs = u ++ x :: rest := by
  rcases List.append_eq_append_iff.1 h with ⟨u, hu, hb⟩ | ⟨u, hu, hb⟩
  · exact .inr ⟨u, hu, hb⟩
  · cases u with
    | nil => exact .inr ⟨[], by rw [hu, List.append_nil, List.append_nil], hb.symm⟩
    | cons y u =>
      obtain ⟨rfl, -⟩ := List.cons.inj hb
      exact .inl ⟨u, hu⟩

theorem eq_of_singleton_eq_append_cons {α : Type} {u rest : List α} {x y : α}
    (h : [y] = u ++ x :: rest) : u = [] ∧ y = x := by
  cases u with
  | nil => exact ⟨rfl, (List.cons.inj h).1⟩
  | cons z u => simp at h

section

variable {r : String} (hr : Fit r) {y : Reply} (hy : Quiet y.body)
include hr hy

/-- A block has no end marker before its last line. -/
theorem lacks_finish_of_mem_opened {t : String} (ht : t ∈ opened r y) (r' : String) :
    ¬ (finish r').toList <:+: t.toList := by
  simp only [opened, List.mem_cons, List.not_mem_nil, or_false] at ht
  rcases ht with rfl | rfl | rfl
  · exact not_finish_infix_start hr
  · exact (quiet_statusLine y.status).lacks_finish r'
  · exact (quiet_bodyLine hy).lacks_finish r'

/-- A block has no markers of another request. -/
theorem unmarked_block {r' : String} (hne : r' ≠ r) {t : String} (ht : t ∈ block r y) :
    Unmarked r' t := by
  simp only [block, opened, List.cons_append, List.nil_append, List.mem_cons, List.not_mem_nil,
    or_false] at ht
  rcases ht with rfl | rfl | rfl | rfl
  · exact ⟨fun h => hne ((start_infix_start_iff hr).1 h), not_finish_infix_start hr⟩
  · exact (quiet_statusLine y.status).unmarked r'
  · exact (quiet_bodyLine hy).unmarked r'
  · exact ⟨not_start_infix_finish hr, fun h => hne ((finish_infix_finish_iff hr).1 h)⟩

end

/-- No line has a marker of a request that is not among the calls. -/
theorem Script.silent {ls : List String} (h : Script answer cs ls)
    (hfit : ∀ c ∈ cs, Fit c.requestId) {r : String} (hr : r ∉ cs.map Call.requestId) :
    ∀ t ∈ ls, Unmarked r t := by
  induction h with
  | nil => simp
  | line _ hq ih =>
    intro t ht
    rcases List.mem_append.1 ht with ht | ht
    · exact ih hfit hr t ht
    · rw [List.mem_singleton.1 ht]
      exact hq.unmarked r
  | @block cs ls c _ hq ih =>
    rw [List.map_append, List.mem_append, not_or] at hr
    intro t ht
    rcases List.mem_append.1 ht with ht | ht
    · exact ih (fun d hd => hfit d (List.mem_append_left _ hd)) hr.1 t ht
    · have hc : Fit c.requestId := hfit c (List.mem_append_right _ (List.mem_singleton_self _))
      exact unmarked_block hc hq (fun he => hr.2 (List.mem_singleton.2 he)) ht

/-- A decoder that has read the lines before one with the end marker of its request has the reply to
the call of that request. -/
theorem Script.reply {ls : List String} (h : Script answer cs ls)
    (hfit : ∀ c ∈ cs, Fit c.requestId) (hids : (cs.map Call.requestId).Nodup) {r : String}
    {before rest : List String} {line : String} (hl : ls = before ++ line :: rest)
    (hf : (finish r).toList <:+: line.toList) :
    ∃ c ∈ cs, c.requestId = r ∧ (before.foldl next (fresh r)).reply = answer c := by
  induction h generalizing before line rest with
  | nil => simp at hl
  | line _ hq ih =>
    rcases append_eq_append_cons hl with ⟨u, hu⟩ | ⟨u, -, hu⟩
    · exact ih hfit hids hu hf
    · obtain ⟨-, rfl⟩ := eq_of_singleton_eq_append_cons hu
      exact absurd hf (hq.lacks_finish r)
  | @block cs ls c h hq ih =>
    have hfit' : ∀ d ∈ cs, Fit d.requestId := fun d hd => hfit d (List.mem_append_left _ hd)
    have hc : Fit c.requestId := hfit c (List.mem_append_right _ (List.mem_singleton_self _))
    rw [List.map_append] at hids
    obtain ⟨hids, -, hnew⟩ := List.nodup_append.1 hids
    rcases append_eq_append_cons hl with ⟨u, hu⟩ | ⟨u, rfl, hu⟩
    · obtain ⟨d, hd, hdr, hreply⟩ := ih hfit' hids hu hf
      exact ⟨d, List.mem_append_left _ hd, hdr, hreply⟩
    · rcases append_eq_append_cons hu with ⟨v, hv⟩ | ⟨v, rfl, hv⟩
      · have hline : line ∈ opened c.requestId (answer c) := by
          rw [hv]
          exact List.mem_append_right _ List.mem_cons_self
        exact absurd hf (lacks_finish_of_mem_opened hc hq hline r)
      · obtain ⟨rfl, rfl⟩ := eq_of_singleton_eq_append_cons hv
        obtain rfl := (finish_infix_finish_iff hc).1 hf
        refine ⟨c, List.mem_append_right _ (List.mem_singleton_self _), rfl, ?_⟩
        -- what came before is of other requests, so the block is read by a fresh decoder
        have hother : c.requestId ∉ cs.map Call.requestId := fun hm =>
          hnew _ hm _ (List.mem_singleton_self _) rfl
        rw [List.append_nil, List.foldl_append, foldl_next_fresh (h.silent hfit' hother)]
        exact reply_foldl_opened (hq.lacks_finish _)

/-! ### The first bytes of a transcript -/

section

variable {bs whole : List UInt8} (h : Transcript answer cs whole)
  (hfit : ∀ c ∈ cs, Fit c.requestId) (hp : bs <+: whole)
include h hfit hp

/-- The first bytes of a transcript give its first lines. If the output ends there, one more line
may be cut short. -/
theorem Transcript.script_of_prefix :
    ∃ ls, Script answer cs ls ∧ linesOf false bs <+: ls ∧ (linesOf true bs = linesOf false bs ∨
      ∃ short long, linesOf true bs = linesOf false bs ++ [lineText short] ∧
        linesOf false bs ++ [lineText long] <+: ls ∧ short <+: long) := by
  obtain ⟨ls, rfl, hls, hscript⟩ := h.script hfit
  obtain ⟨k, hk, -, hrest⟩ := cut_of_prefix hls hp
  have hfirst : linesOf false bs = (ls.map lineText).take k := by
    simp [linesOf, hk, List.map_take]
  refine ⟨_, hscript, ?_, ?_⟩
  · rw [hfirst]
    exact List.take_prefix _ _
  · by_cases hnil : (cut bs).2 = []
    · exact .inl (by simp [linesOf, last, hnil])
    · obtain ⟨l, hl, hshort⟩ := hrest.resolve_left hnil
      refine .inr ⟨(cut bs).2, l, by simp [linesOf, last, hnil], ?_, hshort⟩
      have hget : (ls.map lineText)[k]? = some (lineText l) := by
        rw [List.getElem?_map, hl, Option.map_some]
      rw [hfirst, ← Option.toList_some, ← hget, ← List.take_add_one]
      exact List.take_prefix _ _

/-- The lines of an output that begins like a transcript have no marker of a request that is not
among the calls. -/
theorem Transcript.silent {r : String} (hr : r ∉ cs.map Call.requestId) :
    ∀ t ∈ linesOf false bs, Unmarked r t := by
  obtain ⟨ls, hscript, hlines, -⟩ := h.script_of_prefix hfit hp
  exact fun t ht => hscript.silent hfit hr t (hlines.subset ht)

/-- A decoder that has read the lines of such an output before one with the end marker of its
request has the reply to the call of that request. -/
theorem Transcript.reply (hids : (cs.map Call.requestId).Nodup) {ended : Bool} {r : String}
    {before rest : List String} {line : String}
    (hl : linesOf ended bs = before ++ line :: rest) (hf : (finish r).toList <:+: line.toList) :
    ∃ c ∈ cs, c.requestId = r ∧ (before.foldl next (fresh r)).reply = answer c := by
  obtain ⟨ls, hscript, ⟨tail, htail⟩, hend⟩ := h.script_of_prefix hfit hp
  have hwhole : ∀ {rest : List String}, linesOf false bs = before ++ line :: rest →
      ∃ c ∈ cs, c.requestId = r ∧ (before.foldl next (fresh r)).reply = answer c := by
    intro rest hl
    have hls : ls = before ++ line :: (rest ++ tail) := by
      rw [← htail, hl, List.append_assoc, List.cons_append]
    exact hscript.reply hfit hids hls hf
  cases ended with
  | false => exact hwhole hl
  | true =>
    rcases hend with hend | ⟨short, long, hend, ⟨tail, htail⟩, hshort⟩
    · exact hwhole (hend.symm.trans hl)
    · rw [hend] at hl
      rcases append_eq_append_cons hl with ⟨u, hu⟩ | ⟨u, rfl, hu⟩
      · exact hwhole hu
      · obtain ⟨rfl, rfl⟩ := eq_of_singleton_eq_append_cons hu
        -- a line that is cut short has the end marker only if the whole line has it
        have hlong : (finish r).toList <:+: (lineText long).toList := by
          have hz : (finish r).toList = (endBase ++ '=' :: r.toList) ++ [';'] := by
            rw [toList_finish, List.append_assoc, List.cons_append]
          rw [hz] at hf ⊢
          exact infix_lineText_of_prefix (by decide) (by decide) hshort hf
        have hls : ls = linesOf false bs ++ lineText long :: tail := by
          rw [← htail, List.append_assoc, List.singleton_append]
        rw [List.append_nil]
        exact hscript.reply hfit hids hls hlong

end

end FunctionHost
