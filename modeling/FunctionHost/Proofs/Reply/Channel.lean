import FunctionHost.Proofs.Reply.Block
import FunctionHost.Reply.Reading
/-!
# What a read takes of a channel

A read goes through the lines that it sees until one of them completes the reply
(`ending_read_append`). So there are three ways for it to end: with the reply and the lines after
it, with the close of the channel, or at its deadline, the last two with no line left.

Main statements: `readReply_of_completes`, `readReply_of_closed` and `readReply_of_open`.
-/

namespace FunctionHost

/-- How and when a read ended, and what it left. -/
def Reading.ending (r : Reading) : ReadOutcome × Nat × Channel := (r.outcome, r.time, r.channel)

/-- The latest of a time and the times of lines. -/
def latest (now : Nat) (ls : List (Nat × String)) : Nat := ls.foldl (fun m l => max m l.1) now

section

variable {now u : Nat} {ls : List (Nat × String)}

theorem le_latest (now : Nat) (ls : List (Nat × String)) : now ≤ latest now ls := by
  induction ls generalizing now with
  | nil => exact Nat.le_refl _
  | cons l ls ih => exact Nat.le_trans (Nat.le_max_left _ _) (ih _)

theorem latest_le (hnow : now ≤ u) (h : ∀ l ∈ ls, l.1 ≤ u) : latest now ls ≤ u := by
  induction ls generalizing now with
  | nil => exact hnow
  | cons l ls ih =>
    rw [List.forall_mem_cons] at h
    exact ih (Nat.max_le.2 ⟨hnow, h.1⟩) h.2

end

namespace Decoder

variable {d : Decoder} {now deadline : Nat} {closes : Option Nat} {ls rest : List (Nat × String)}
  {l : Nat × String}

theorem seen_eq_true_iff {time : Nat} :
    seen now deadline time = true ↔ time ≤ now ∨ time < deadline := by
  simp [seen]

/-- Lines that are seen and do not complete the reply are taken. -/
theorem ending_read_append (hseen : ∀ l ∈ ls, l.1 ≤ now ∨ l.1 < deadline)
    (hno : ∀ l ∈ ls, d.completes l.2 = false) :
    (d.read now deadline closes (ls ++ rest)).ending =
      (((ls.map Prod.snd).foldl next d).read (latest now ls) deadline closes rest).ending := by
  induction ls generalizing d now with
  | nil => rfl
  | cons l ls ih =>
    rw [List.forall_mem_cons] at hseen hno
    have hl : seen now deadline l.1 = true := seen_eq_true_iff.2 hseen.1
    have hlater : ∀ k ∈ ls, k.1 ≤ max now l.1 ∨ k.1 < deadline := by
      intro k hk
      exact (hseen.2 k hk).imp_left fun hle => Nat.le_trans hle (Nat.le_max_left _ _)
    have hnext : ∀ k ∈ ls, (d.next l.2).completes k.2 = false := by
      intro k hk
      rw [completes_next]
      exact hno.2 k hk
    rw [List.cons_append, read, if_pos hl, if_neg (by simp [hno.1])]
    exact ih hlater hnext

/-- The line that completes the reply ends the read. -/
theorem ending_read_cons (hseen : l.1 ≤ now ∨ l.1 < deadline) (hc : d.completes l.2 = true) :
    (d.read now deadline closes (l :: rest)).ending =
      (.reply (d.next l.2).reply, max now l.1, ⟨rest, closes⟩) := by
  rw [read, if_pos (seen_eq_true_iff.2 hseen), if_pos hc]
  rfl

end Decoder

namespace Channel

open Decoder

variable {c : Channel} {r : String} {limit now : Nat} {ls rest : List (Nat × String)}
  {l : Nat × String} {u : Nat}

/-- A read ends with the line that completes its reply. -/
theorem readReply_of_completes (hlines : c.lines = ls ++ l :: rest)
    (hseen : ∀ k ∈ ls ++ [l], k.1 ≤ now ∨ k.1 < now + limit)
    (hno : ∀ k ∈ ls, (fresh r).completes k.2 = false) (hc : (fresh r).completes l.2 = true)
    (hnow : now ≤ u) (hbefore : ∀ k ∈ ls ++ [l], k.1 ≤ u) (hlast : u ≤ max now l.1) :
    (c.readReply r (some limit) now).ending =
      (.reply (((ls.map Prod.snd).foldl next (fresh r)).next l.2).reply, u, ⟨rest, c.closes⟩) := by
  rw [List.forall_mem_append, List.forall_mem_singleton] at hseen hbefore
  have hle := latest_le hnow hbefore.1
  have hge := le_latest now ls
  have htime : max (latest now ls) l.1 = u := by
    have := hbefore.2
    omega
  have hnext : ((ls.map Prod.snd).foldl next (fresh r)).completes l.2 = true := by
    rw [completes_foldl_next]
    exact hc
  have hl : l.1 ≤ latest now ls ∨ l.1 < now + limit :=
    hseen.2.imp_left fun hle => Nat.le_trans hle hge
  unfold readReply
  rw [hlines]
  refine (ending_read_append hseen.1 hno).trans ?_
  rw [ending_read_cons hl hnext, htime]

/-- A read that sees the channel close before its reply is complete ends with that. -/
theorem readReply_of_closed (hcloses : c.closes = some u) (hu : u ≤ now ∨ u < now + limit)
    (hseen : ∀ k ∈ c.lines, k.1 ≤ now ∨ k.1 < now + limit)
    (hno : ∀ k ∈ c.lines, (fresh r).completes k.2 = false) (hnow : now ≤ u)
    (hbefore : ∀ k ∈ c.lines, k.1 ≤ u) :
    (c.readReply r (some limit) now).ending = (.closed, u, ⟨[], some u⟩) := by
  have hle := latest_le hnow hbefore
  have hge := le_latest now c.lines
  have hclose : seen (latest now c.lines) (now + limit) u = true :=
    seen_eq_true_iff.2 (hu.imp_left fun hle => Nat.le_trans hle hge)
  unfold readReply
  rw [hcloses, ← List.append_nil c.lines]
  refine (ending_read_append hseen hno).trans ?_
  rw [Decoder.read, if_pos hclose, Nat.max_eq_right hle]
  rfl

/-- A read of an open channel whose lines do not complete the reply lasts until its deadline. -/
theorem readReply_of_open (hcloses : c.closes = none)
    (hseen : ∀ k ∈ c.lines, k.1 ≤ now ∨ k.1 < now + limit)
    (hno : ∀ k ∈ c.lines, (fresh r).completes k.2 = false) :
    (c.readReply r (some limit) now).ending = (.timedOut, now + limit, ⟨[], none⟩) := by
  have hle : latest now c.lines ≤ now + limit := by
    refine latest_le (Nat.le_add_right _ _) fun k hk => ?_
    have := hseen k hk
    omega
  unfold readReply
  rw [hcloses, ← List.append_nil c.lines]
  refine (ending_read_append hseen hno).trans ?_
  rw [Decoder.read, Nat.max_eq_right hle]
  rfl

end Channel

end FunctionHost
