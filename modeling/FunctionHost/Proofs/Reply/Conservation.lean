import FunctionHost.Proofs.Reply.Channel
import FunctionHost.Proofs.Reply.Stale
/-!
# Reads conserve lines and time

Reads that follow one another share a channel: each takes up the lines where the one before it has
stopped, and starts when it has ended. What one read takes is told by the channel that it finds
(`Ends`): it looks for the first line with its end marker among those that come in time, then for
the close, and otherwise its time runs out. A chain of reads cuts the lines of the channel into
pieces, one for each read.

Main statement: `readAll_conserves`, for a channel whose lines come in the order of their times, of
any reads that follow one another.
-/

namespace FunctionHost

open FunctionHost.Marker FunctionHost.Decoder

/-- Something that happens at `time` comes in time for a read that starts at `start` and may last
for `limit`: it is noticed before the deadline, or at once. -/
def InTime (start limit time : Nat) : Prop :=
  max start time < start + limit ∨ max start time = start

instance (start limit time : Nat) : Decidable (InTime start limit time) :=
  inferInstanceAs (Decidable (_ ∨ _))

theorem inTime_iff {start limit time : Nat} :
    InTime start limit time ↔ time ≤ start ∨ time < start + limit := by
  unfold InTime
  omega

theorem InTime.mono {start limit time earlier : Nat} (h : InTime start limit time)
    (hle : earlier ≤ time) : InTime start limit earlier := by
  rw [inTime_iff] at h ⊢
  omega

namespace Channel

/-- The lines come in the order of their times, and the close after them. -/
structure Ordered (c : Channel) : Prop where
  /-- No line is earlier than one before it. -/
  lines : c.lines.Pairwise fun l m => l.1 ≤ m.1
  /-- The channel does not close before a line. -/
  closes : ∀ t, c.closes = some t → ∀ l ∈ c.lines, l.1 ≤ t

/-- How a read of the channel `k` ends that starts at `s`: its outcome, its time, and the lines that
it takes. -/
inductive Ends (k : Channel) (r : String) (s limit : Nat) :
    ReadOutcome → Nat → List (Nat × String) → Prop where
  /-- The first line with the end marker comes in time. -/
  | reply {ls rest : List (Nat × String)} {l : Nat × String} (hlines : k.lines = ls ++ l :: rest)
      (hfirst : ∀ m ∈ ls, ¬ (finish r).toList <:+: m.2.toList)
      (hfinish : (finish r).toList <:+: l.2.toList) (htime : InTime s limit l.1) :
      Ends k r s limit (.reply (((ls ++ [l]).map Prod.snd).foldl next (fresh r)).reply)
        (max s l.1) (ls ++ [l])
  /-- No end marker comes in time, but the close does. -/
  | closed {t : Nat}
      (hlate : ∀ l ∈ k.lines, (finish r).toList <:+: l.2.toList → ¬ InTime s limit l.1)
      (hcloses : k.closes = some t) (htime : InTime s limit t) :
      Ends k r s limit .closed (max s t) k.lines
  /-- Neither comes in time. -/
  | timedOut
      (hlate : ∀ l ∈ k.lines, (finish r).toList <:+: l.2.toList → ¬ InTime s limit l.1)
      (hopen : ∀ t, k.closes = some t → ¬ InTime s limit t) :
      Ends k r s limit .timedOut (s + limit) (k.lines.filter fun l => InTime s limit l.1)

/-- The lines of a channel that are no longer there. -/
def taken (c left : Channel) : List (Nat × String) :=
  c.lines.take (c.lines.length - left.lines.length)

/-- What each of some reads leaves. -/
def lefts (c : Channel) (now : Nat) (rs : List (String × Nat)) : List Channel :=
  (c.readAll now rs).map Reading.channel

/-- What each of some reads takes. -/
def takenBy (c : Channel) (now : Nat) (rs : List (String × Nat)) : List (List (Nat × String)) :=
  List.zipWith taken (c :: c.lefts now rs) (c.lefts now rs)

/-- The channel that is left after some reads. -/
def leftAfter (c : Channel) (now : Nat) (rs : List (String × Nat)) : Channel :=
  ((c.readAll now rs).getLast?.map Reading.channel).getD c

/-- The time when some reads have ended. -/
def timeAfter (c : Channel) (now : Nat) (rs : List (String × Nat)) : Nat :=
  ((c.readAll now rs).getLast?.map Reading.time).getD now

end Channel

/-! ### One read -/

namespace Decoder

variable {d : Decoder} {now deadline : Nat} {rest : List (Nat × String)}

/-- The close ends a read that has no line left, if it is seen. -/
theorem ending_read_of_closed {t : Nat} (ht : t ≤ now ∨ t < deadline) :
    (d.read now deadline (some t) []).ending = (.closed, max now t, ⟨[], some t⟩) := by
  rw [read, if_pos (seen_eq_true_iff.2 ht)]
  rfl

/-- A read that sees nothing more lasts until its deadline and leaves what there is. -/
theorem ending_read_of_unseen {closes : Option Nat}
    (hrest : ∀ l ∈ rest, ¬ (l.1 ≤ now ∨ l.1 < deadline))
    (hopen : ∀ t, closes = some t → ¬ (t ≤ now ∨ t < deadline)) :
    (d.read now deadline closes rest).ending =
      (.timedOut, max now deadline, ⟨rest, closes⟩) := by
  cases rest with
  | cons l rest =>
    rw [read, if_neg (mt seen_eq_true_iff.1 (hrest l List.mem_cons_self))]
    rfl
  | nil =>
    cases closes with
    | none => rfl
    | some t =>
      rw [read, if_neg (mt seen_eq_true_iff.1 (hopen t rfl))]
      rfl

end Decoder

namespace Channel

section

variable {k : Channel} {r : String} {s limit u : Nat} {ls rest : List (Nat × String)}
  {l : Nat × String}

/-- Lines that come in time come no later than the deadline. -/
theorem latest_le_deadline (hin : ∀ m ∈ ls, InTime s limit m.1) : latest s ls ≤ s + limit := by
  apply latest_le
  · omega
  · intro m hm
    have := inTime_iff.1 (hin m hm)
    omega

/-- What comes too late has not come with the lines that come in time. -/
theorem unseen_of_late (hin : ∀ m ∈ ls, InTime s limit m.1) (hu : ¬ InTime s limit u) :
    ¬ (u ≤ latest s ls ∨ u < s + limit) := by
  rw [inTime_iff] at hu
  have hle : latest s ls ≤ u - 1 := by
    apply latest_le
    · omega
    · intro m hm
      have := inTime_iff.1 (hin m hm)
      omega
  omega

/-- What comes in time is seen when the lines before it have come. -/
theorem seen_of_inTime (hu : InTime s limit u) : u ≤ latest s ls ∨ u < s + limit := by
  have hge := le_latest s ls
  rw [inTime_iff] at hu
  omega

/-- What comes after some lines comes at its own time, or at the start of the read. -/
theorem max_latest (h : ∀ m ∈ ls, m.1 ≤ u) : max (latest s ls) u = max s u := by
  have hge := le_latest s ls
  have hle : latest s ls ≤ max s u := by
    apply latest_le
    · omega
    · intro m hm
      have := h m hm
      omega
  omega

/-- A read goes through lines that come in time and have no end marker. -/
theorem ending_readReply_append (hlines : k.lines = ls ++ rest)
    (hin : ∀ m ∈ ls, InTime s limit m.1)
    (hno : ∀ m ∈ ls, ¬ (finish r).toList <:+: m.2.toList) :
    (k.readReply r (some limit) s).ending =
      (((ls.map Prod.snd).foldl next (fresh r)).read (latest s ls) (s + limit) k.closes
        rest).ending := by
  unfold readReply
  rw [hlines]
  exact ending_read_append (fun m hm => inTime_iff.1 (hin m hm))
    fun m hm => completes_fresh_eq_false_iff.2 (hno m hm)

theorem Ordered.le (hk : k.Ordered) (hlines : k.lines = ls ++ l :: rest) :
    (∀ m ∈ ls ++ [l], m.1 ≤ l.1) ∧ ∀ m ∈ rest, l.1 ≤ m.1 := by
  have hp := hk.lines
  rw [hlines, List.pairwise_append, List.pairwise_cons] at hp
  refine ⟨?_, hp.2.1.1⟩
  intro m hm
  rw [List.mem_append, List.mem_singleton] at hm
  rcases hm with hm | rfl
  · exact hp.2.2 m hm l List.mem_cons_self
  · exact Nat.le_refl _

/-- The lines of an ordered channel that come in time stand before the others. -/
theorem Ordered.split (hk : k.Ordered) (s limit : Nat) :
    k.lines = (k.lines.filter fun m => InTime s limit m.1) ++
      k.lines.filter fun m => ¬ InTime s limit m.1 := by
  obtain ⟨hp, -⟩ := hk
  generalize k.lines = lines at hp ⊢
  induction lines with
  | nil => rfl
  | cons l lines ih =>
    rw [List.pairwise_cons] at hp
    by_cases hl : InTime s limit l.1
    · simpa [hl] using ih hp.2
    · have hlate : ∀ m ∈ lines, ¬ InTime s limit m.1 := fun m hm hin =>
        hl (hin.mono (hp.1 m hm))
      rw [List.filter_eq_nil_iff.2 (by simpa [hl] using hlate),
        List.filter_eq_self.2 (by simpa [hl] using hlate), List.nil_append]

/-- If a line with an end marker comes in time, then so does the first one. -/
theorem Ordered.exists_first (hk : k.Ordered)
    (h : ∃ m ∈ k.lines, (finish r).toList <:+: m.2.toList ∧ InTime s limit m.1) :
    ∃ ls l rest, k.lines = ls ++ l :: rest ∧
      (∀ m ∈ ls, ¬ (finish r).toList <:+: m.2.toList) ∧
      (finish r).toList <:+: l.2.toList ∧ InTime s limit l.1 := by
  obtain ⟨m, hm, hf, hin⟩ := h
  cases hfind : k.lines.find? fun m => (fresh r).completes m.2 with
  | none => exact absurd (completes_fresh_iff.2 hf) (List.find?_eq_none.1 hfind m hm)
  | some l =>
    obtain ⟨hl, ls, rest, hlines, hfirst⟩ := List.find?_eq_some_iff_append.1 hfind
    have hfirst : ∀ m ∈ ls, ¬ (finish r).toList <:+: m.2.toList := by
      intro m hm
      rw [← completes_fresh_eq_false_iff]
      simpa using hfirst m hm
    refine ⟨ls, l, rest, hlines, hfirst, completes_fresh_iff.1 hl, ?_⟩
    rw [hlines, List.mem_append, List.mem_cons] at hm
    rcases hm with hm | rfl | hm
    · exact absurd hf (hfirst m hm)
    · exact hin
    · exact hin.mono ((hk.le hlines).2 m hm)

/-- A read that finds its end marker in time takes the lines up to it. -/
theorem Ordered.ending_of_finish (hk : k.Ordered) (hlines : k.lines = ls ++ l :: rest)
    (hfirst : ∀ m ∈ ls, ¬ (finish r).toList <:+: m.2.toList)
    (hfinish : (finish r).toList <:+: l.2.toList) (htime : InTime s limit l.1) :
    (k.readReply r (some limit) s).ending =
      (.reply (((ls ++ [l]).map Prod.snd).foldl next (fresh r)).reply, max s l.1,
        ⟨rest, k.closes⟩) := by
  obtain ⟨hle, -⟩ := hk.le hlines
  have hread := readReply_of_completes hlines
    (fun m hm => inTime_iff.1 (htime.mono (hle m hm)))
    (fun m hm => completes_fresh_eq_false_iff.2 (hfirst m hm)) (completes_fresh_iff.2 hfinish)
    (Nat.le_max_left s l.1) (fun m hm => Nat.le_trans (hle m hm) (Nat.le_max_right s l.1))
    (Nat.le_refl _)
  rw [hread, List.map_append, List.foldl_append]
  rfl

/-- A read that does not, and sees the close in time, takes all lines. -/
theorem Ordered.ending_of_close (hk : k.Ordered)
    (hlate : ∀ m ∈ k.lines, (finish r).toList <:+: m.2.toList → ¬ InTime s limit m.1)
    (hcloses : k.closes = some u) (htime : InTime s limit u) :
    (k.readReply r (some limit) s).ending = (.closed, max s u, ⟨[], k.closes⟩) := by
  have hin : ∀ m ∈ k.lines, InTime s limit m.1 := fun m hm =>
    htime.mono (hk.closes u hcloses m hm)
  have hno : ∀ m ∈ k.lines, ¬ (finish r).toList <:+: m.2.toList := fun m hm hf =>
    hlate m hm hf (hin m hm)
  rw [ending_readReply_append (List.append_nil _).symm hin hno, hcloses,
    ending_read_of_closed (seen_of_inTime htime), max_latest (hk.closes u hcloses)]

/-- A read that sees neither in time takes what comes in time, and lasts until its deadline. -/
theorem Ordered.ending_of_neither (hk : k.Ordered)
    (hlate : ∀ m ∈ k.lines, (finish r).toList <:+: m.2.toList → ¬ InTime s limit m.1)
    (hopen : ∀ t, k.closes = some t → ¬ InTime s limit t) :
    (k.readReply r (some limit) s).ending =
      (.timedOut, s + limit, ⟨k.lines.filter fun m => ¬ InTime s limit m.1, k.closes⟩) := by
  have hin : ∀ m ∈ k.lines.filter fun m => InTime s limit m.1, InTime s limit m.1 := by
    simp
  have hno : ∀ m ∈ k.lines.filter fun m => InTime s limit m.1,
      ¬ (finish r).toList <:+: m.2.toList := by
    intro m hm hf
    rw [List.mem_filter, decide_eq_true_iff] at hm
    exact hlate m hm.1 hf hm.2
  have hrest : ∀ m ∈ k.lines.filter fun m => ¬ InTime s limit m.1, ¬ InTime s limit m.1 := by
    simp
  rw [ending_readReply_append (hk.split s limit) hin hno,
    ending_read_of_unseen (fun m hm => unseen_of_late hin (hrest m hm))
      fun t ht => unseen_of_late hin (hopen t ht),
    Nat.max_eq_right (latest_le_deadline hin)]

theorem of_ending {x : Reading} {o : ReadOutcome} {t : Nat} {c : Channel}
    (h : x.ending = (o, t, c)) : x.outcome = o ∧ x.time = t ∧ x.channel = c := by
  simpa [Reading.ending] using h

/-- What a read takes and leaves of an ordered channel, and how it ends. -/
theorem Ordered.read_ends (hk : k.Ordered) (r : String) (s limit : Nat) :
    ∃ ls, k.lines = ls ++ (k.readReply r (some limit) s).channel.lines ∧
      (k.readReply r (some limit) s).channel.closes = k.closes ∧
      Ends k r s limit (k.readReply r (some limit) s).outcome
        (k.readReply r (some limit) s).time ls := by
  by_cases hfound : ∃ m ∈ k.lines, (finish r).toList <:+: m.2.toList ∧ InTime s limit m.1
  · obtain ⟨ls, l, rest, hlines, hfirst, hfinish, htime⟩ := hk.exists_first hfound
    obtain ⟨ho, ht, hleft⟩ := of_ending (hk.ending_of_finish hlines hfirst hfinish htime)
    rw [ho, ht, hleft]
    exact ⟨ls ++ [l], by simp [hlines], rfl, .reply hlines hfirst hfinish htime⟩
  have hlate : ∀ m ∈ k.lines, (finish r).toList <:+: m.2.toList → ¬ InTime s limit m.1 := by
    intro m hm hf hin
    exact hfound ⟨m, hm, hf, hin⟩
  by_cases hclosed : ∃ u, k.closes = some u ∧ InTime s limit u
  · obtain ⟨u, hcloses, htime⟩ := hclosed
    obtain ⟨ho, ht, hleft⟩ := of_ending (hk.ending_of_close hlate hcloses htime)
    rw [ho, ht, hleft]
    exact ⟨k.lines, by simp, rfl, .closed hlate hcloses htime⟩
  · have hopen : ∀ u, k.closes = some u → ¬ InTime s limit u := fun u hu hin =>
      hclosed ⟨u, hu, hin⟩
    obtain ⟨ho, ht, hleft⟩ := of_ending (hk.ending_of_neither hlate hopen)
    rw [ho, ht, hleft]
    exact ⟨_, hk.split s limit, rfl, .timedOut hlate hopen⟩

theorem Ends.le_time (hk : k.Ordered) {o : ReadOutcome} {t : Nat} (h : Ends k r s limit o t ls) :
    s ≤ t ∧ ∀ m ∈ ls, m.1 ≤ t := by
  cases h with
  | @reply ls rest l hlines hfirst hfinish htime =>
    exact ⟨Nat.le_max_left _ _, fun m hm =>
      Nat.le_trans ((hk.le hlines).1 m hm) (Nat.le_max_right _ _)⟩
  | closed hlate hcloses htime =>
    exact ⟨Nat.le_max_left _ _, fun m hm =>
      Nat.le_trans (hk.closes _ hcloses m hm) (Nat.le_max_right _ _)⟩
  | timedOut hlate hopen =>
    refine ⟨Nat.le_add_right _ _, ?_⟩
    intro m hm
    rw [List.mem_filter, decide_eq_true_iff, inTime_iff] at hm
    omega

/-- A read that lasts until its deadline leaves no line that has come by then. -/
theorem Ends.arrived_eq_nil (hk : k.Ordered) {left : Channel} {t : Nat}
    (h : Ends k r s limit .timedOut t ls) (hlines : k.lines = ls ++ left.lines)
    (hclear : ∀ m ∈ k.lines, m.1 = s + limit → limit = 0) : left.arrived t = [] := by
  cases h with
  | timedOut hlate hopen =>
    have hleft : left.lines = k.lines.filter fun m => ¬ InTime s limit m.1 :=
      List.append_cancel_left (hlines.symm.trans (hk.split s limit))
    rw [arrived, List.map_eq_nil_iff, List.filter_eq_nil_iff]
    intro m hm hle
    rw [hleft, List.mem_filter, decide_eq_true_iff, inTime_iff] at hm
    rw [decide_eq_true_iff] at hle
    have hzero := hclear m hm.1
    omega

theorem taken_eq {left : Channel} (hlines : k.lines = ls ++ left.lines) : k.taken left = ls := by
  simp [taken, hlines]

theorem arrived_eq {left : Channel} (hlines : k.lines = ls ++ left.lines)
    (hle : ∀ m ∈ ls, m.1 ≤ u) : k.arrived u = ls.map Prod.snd ++ left.arrived u := by
  rw [arrived, arrived, hlines, List.filter_append, List.map_append,
    List.filter_eq_self.2 (by simpa using hle)]

theorem Ordered.of_append (hk : k.Ordered) {left : Channel} (hlines : k.lines = ls ++ left.lines)
    (hcloses : left.closes = k.closes) : left.Ordered := by
  have hp := hk.lines
  rw [hlines, List.pairwise_append] at hp
  refine ⟨hp.2.1, ?_⟩
  intro t ht m hm
  apply hk.closes t (hcloses ▸ ht)
  rw [hlines]
  exact List.mem_append_right _ hm

end

/-! ### Reads that follow one another -/

section

variable {c : Channel} {now : Nat} {r : String} {limit : Nat} {rs : List (String × Nat)}

theorem getD_getLast?_cons {α β : Type} (f : α → β) (a : α) (l : List α) (b : β) :
    ((a :: l).getLast?.map f).getD b = (l.getLast?.map f).getD (f a) := by
  rw [List.getLast?_cons]
  cases l.getLast? <;> rfl

theorem leftAfter_cons : c.leftAfter now ((r, limit) :: rs) =
    (c.readReply r (some limit) now).channel.leftAfter (c.readReply r (some limit) now).time rs :=
  getD_getLast?_cons _ _ _ _

theorem timeAfter_cons : c.timeAfter now ((r, limit) :: rs) =
    (c.readReply r (some limit) now).channel.timeAfter (c.readReply r (some limit) now).time rs :=
  getD_getLast?_cons _ _ _ _

theorem takenBy_cons : c.takenBy now ((r, limit) :: rs) =
    c.taken (c.readReply r (some limit) now).channel ::
      (c.readReply r (some limit) now).channel.takenBy (c.readReply r (some limit) now).time rs :=
  rfl

/-- The reads after some others are those of the channel that these leave. -/
theorem readAll_append (c : Channel) (now : Nat) (before rs : List (String × Nat)) :
    c.readAll now (before ++ rs) =
      c.readAll now before ++ (c.leftAfter now before).readAll (c.timeAfter now before) rs := by
  induction before generalizing c now with
  | nil => rfl
  | cons q before ih =>
    obtain ⟨r, limit⟩ := q
    rw [leftAfter_cons, timeAfter_cons, List.cons_append, readAll, readAll, ih, List.cons_append]

theorem takenBy_append (c : Channel) (now : Nat) (before rs : List (String × Nat)) :
    c.takenBy now (before ++ rs) =
      c.takenBy now before ++ (c.leftAfter now before).takenBy (c.timeAfter now before) rs := by
  induction before generalizing c now with
  | nil => rfl
  | cons q before ih =>
    obtain ⟨r, limit⟩ := q
    rw [leftAfter_cons, timeAfter_cons, List.cons_append, takenBy_cons, takenBy_cons, ih,
      List.cons_append]

theorem length_readAll (c : Channel) (now : Nat) (rs : List (String × Nat)) :
    (c.readAll now rs).length = rs.length := by
  induction rs generalizing c now with
  | nil => rfl
  | cons q rs ih => rw [readAll, List.length_cons, List.length_cons, ih]

theorem length_takenBy (c : Channel) (now : Nat) (rs : List (String × Nat)) :
    (c.takenBy now rs).length = rs.length := by
  simp [takenBy, lefts, length_readAll]

/-- Reads cut the lines of a channel into what each of them takes and what is left. -/
theorem Ordered.flatten_takenBy (hc : c.Ordered) (now : Nat) (rs : List (String × Nat)) :
    c.lines = (c.takenBy now rs).flatten ++ (c.leftAfter now rs).lines ∧
      (c.leftAfter now rs).closes = c.closes ∧ now ≤ c.timeAfter now rs ∧
      ∀ m ∈ (c.takenBy now rs).flatten, m.1 ≤ c.timeAfter now rs := by
  induction rs generalizing c now with
  | nil => exact ⟨rfl, rfl, Nat.le_refl _, by simp [takenBy, lefts, readAll]⟩
  | cons q rs ih =>
    obtain ⟨r, limit⟩ := q
    obtain ⟨ls, hlines, hcloses, hends⟩ := hc.read_ends r now limit
    obtain ⟨hle, hls⟩ := hends.le_time hc
    obtain ⟨hlater, hcloses', hle', htaken⟩ := ih (hc.of_append hlines hcloses)
      (c.readReply r (some limit) now).time
    rw [leftAfter_cons, timeAfter_cons, takenBy_cons, List.flatten_cons, taken_eq hlines]
    refine ⟨?_, hcloses'.trans hcloses, Nat.le_trans hle hle', ?_⟩
    · rw [List.append_assoc, ← hlater]
      exact hlines
    · intro m hm
      rcases List.mem_append.1 hm with hm | hm
      · exact Nat.le_trans (hls m hm) hle'
      · exact htaken m hm

/-- Reads that follow one another on a channel conserve its lines and its time. What they take,
one after the other, and what they leave are the lines of the channel; and up to the end of the last
read, they are the lines that have come by then. Each read starts when the one before it has
ended, on what that has left, and ends as this channel tells: with the lines up to the first end
marker that comes in time, and the reply that they give; otherwise with all lines when the channel
closes; and otherwise at its deadline with the lines that have come in time. If no line comes
exactly at a deadline that is later than the start, then these are all lines that have come. -/
theorem readAll_conserves (c : Channel) (now : Nat) (rs : List (String × Nat)) (hc : c.Ordered) :
    (c.takenBy now rs).flatten ++ (c.leftAfter now rs).lines = c.lines ∧
      (c.takenBy now rs).flatten.map Prod.snd ++
          (c.leftAfter now rs).arrived (c.timeAfter now rs) = c.arrived (c.timeAfter now rs) ∧
      ∀ before r limit later, rs = before ++ (r, limit) :: later →
        ∃ x taken, (c.readAll now rs)[before.length]? = some x ∧
          (c.takenBy now rs)[before.length]? = some taken ∧
          Ends (c.leftAfter now before) r (c.timeAfter now before) limit x.outcome x.time taken ∧
          ((∀ m ∈ (c.leftAfter now before).lines,
              m.1 = c.timeAfter now before + limit → limit = 0) →
            x.outcome = .timedOut → x.channel.arrived x.time = []) := by
  obtain ⟨hlines, -, -, htaken⟩ := hc.flatten_takenBy now rs
  refine ⟨hlines.symm, (arrived_eq hlines htaken).symm, ?_⟩
  rintro before r limit later rfl
  obtain ⟨hfound, hcloses, -, -⟩ := hc.flatten_takenBy now before
  have hk := hc.of_append hfound hcloses
  generalize hs : c.timeAfter now before = s at hk ⊢
  generalize hleft : c.leftAfter now before = k at hk ⊢
  obtain ⟨ls, hls, -, hends⟩ := hk.read_ends r s limit
  refine ⟨k.readReply r (some limit) s, ls, ?_, ?_, hends, ?_⟩
  · rw [readAll_append, hs, hleft, List.getElem?_append_right (by rw [length_readAll]),
      length_readAll, Nat.sub_self]
    rfl
  · rw [takenBy_append, hs, hleft, List.getElem?_append_right (by rw [length_takenBy]),
      length_takenBy, Nat.sub_self, takenBy_cons, taken_eq hls]
    rfl
  · intro hclear hout
    rw [hout] at hends
    exact hends.arrived_eq_nil hk hls hclear

end

/-- Output in which a reply begins at once and is completed late, with a line after it. -/
def lateOutput : Channel where
  lines := [(0, "CMD_OUTPUT_START=a;"), (0, "CMD_OUTPUT_BODY=x"), (30, "CMD_OUTPUT_END=a;"),
    (30, "bye"), (50, "CMD_OUTPUT_START=b;")]
  closes := some 90

/-- Reads of it: with no time, with too little, and with enough; and then of a reply that never
comes, with no time and until the close. -/
def lateReads : List (String × Nat) := [("a", 0), ("a", 20), ("a", 100), ("b", 0), ("b", 1000)]

/-- The first read takes what is there without waiting, the second one nothing, the third one what
is then the reply, and the others the rest. -/
theorem readAll_conserves_late : lateOutput.Ordered ∧
    (lateOutput.readAll 0 lateReads).map (fun x => (x.outcome, x.time)) =
      [(.timedOut, 0), (.timedOut, 20), (.reply ⟨.ok, ""⟩, 30), (.timedOut, 30), (.closed, 90)] ∧
    (lateOutput.takenBy 0 lateReads).map List.length = [2, 0, 1, 1, 1] ∧
    (lateOutput.takenBy 0 lateReads).flatten ++ (lateOutput.leftAfter 0 lateReads).lines =
      lateOutput.lines ∧
    ∀ x, (lateOutput.readAll 0 lateReads)[3]? = some x → x.channel.arrived x.time = [] := by
  have hc : lateOutput.Ordered := ⟨by decide +kernel, by
    intro t ht
    cases ht
    decide +kernel⟩
  obtain ⟨hlines, -, hreads⟩ := readAll_conserves lateOutput 0 lateReads hc
  refine ⟨hc, by decide +kernel, by decide +kernel, hlines, ?_⟩
  intro x hx
  obtain ⟨y, ls, hy, -, -, harrived⟩ := hreads (lateReads.take 3) "b" 0 (lateReads.drop 4) rfl
  obtain rfl : x = y := Option.some.inj (hx.symm.trans hy)
  apply harrived
  · intro m hm h
    rfl
  · have hout : (lateOutput.readAll 0 lateReads)[3]?.map Reading.outcome = some .timedOut := by
      decide +kernel
    rw [hx] at hout
    exact Option.some.inj hout

end Channel

end FunctionHost
