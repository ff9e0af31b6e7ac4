import FunctionHost.Proofs.Pool.Parts
import FunctionHost.Proofs.Reply.Consumption
import Mathlib.Logic.Relation
import Mathlib.Tactic.Set
/-!
# Moves of a pool

Everything that an action sets off is a chain of moves (`Move`). Most of them leave the processes
alive (`Stir`): a call that has its turn begins or fails, a call looks for a worker in vain, an
invocation reads or ends, time passes. What an action itself does to the calls stands apart: one
comes in (`Enters`) or is dropped (`Drops`). So a statement about all runs needs one case for each
move, and none for each action.

Main statement: `settle_stirs`, settling is a chain of stirs.
-/

namespace FunctionHost.Pool

open Relation FunctionHost.Http

/-- Nothing is left of the pool: every worker is terminated. -/
def Dead (p : Pool) : Prop := ∀ w ∈ p.workers, w.terminated = true

instance (p : Pool) : Decidable p.Dead :=
  inferInstanceAs (Decidable (∀ w ∈ p.workers, w.terminated = true))

/-- The answer to a call that gets no worker. -/
def unavailable : Outcome := .reply (.canonical .serviceUnavailable)

/-- The answer to a call whose time is up. -/
def timedOut : Outcome := .reply (.canonical .requestTimeout)

/-- A pool whose waiting calls have all been woken. -/
def roused (p : Pool) : Pool := { p with waiting := [], ready := p.ready ++ p.waiting.map .look }

/-- It is the turn of a call to get worker `i`: it was granted the worker, or was woken and finds it
free. The last argument is the pool without the turn. -/
inductive Comes (p : Pool) (i : Nat) (c : Call) : Pool → Prop where
  /-- The call waited for the worker. -/
  | granted {ts : List Turn} {w : Worker} : p.ready = .start i :: ts → p.workers[i]? = some w →
      w.hold = .granted c → Comes p i c { p with ready := ts }
  /-- The call waited for any worker. -/
  | woken {ts : List Turn} {d : Waiter} : p.ready = .look d :: ts → p.freeWorker? = some i →
      d.call = c → Comes p i c { p with ready := ts }

/-- What happens to a pool while its processes live on and no call comes in or is dropped. -/
inductive Stir : Pool → Pool → Prop where
  /-- A call begins. -/
  | begins {p q : Pool} {i : Nat} {c : Call} {w : Worker} : Comes p i c q →
      q.workers[i]? = some w → w.reading = true → Stir p (q.seize i w c)
  /-- A call fails because the interpreter does not read. -/
  | fails {p q : Pool} {i : Nat} {c : Call} {w : Worker} : Comes p i c q →
      q.workers[i]? = some w → w.reading = false →
      Stir p ((q.note (.obtained i c)).finish i c (.failed (.write i)))
  /-- A turn has nothing to begin. -/
  | idles {p : Pool} {i : Nat} {ts : List Turn} : p.ready = .start i :: ts →
      (∀ w ∈ p.workers[i]?, ∀ c, w.hold ≠ .granted c) → Stir p { p with ready := ts }
  /-- A call waits because no worker is free. -/
  | waits {p : Pool} {d : Waiter} {ts : List Turn} : p.ready = .look d :: ts →
      p.freeWorker? = none → ¬ p.Dead → p.clock < d.deadline →
      Stir p { p with ready := ts, permit := false, waiting := p.waiting ++ [d] }
  /-- A call is turned away because no worker is left or its time is up. -/
  | turnsAway {p : Pool} {d : Waiter} {ts : List Turn} (b : Bool) : p.ready = .look d :: ts →
      p.freeWorker? = none → p.Dead ∨ d.deadline ≤ p.clock →
      Stir p (({ p with ready := ts, permit := b } : Pool).note (.ended d.call unavailable))
  /-- An invocation reads, and its reply is not complete. -/
  | reads {p : Pool} {i : Nat} {w : Worker} {inv : Invocation} : p.workers[i]? = some w →
      w.hold = .running inv → (inv.decoder.run w.unread).done = false →
      Stir p ((p.notes ((inv.decoder.run w.unread).complaints.map .complained)).setWorker i
        { w with
          unread := (inv.decoder.run w.unread).rest
          hold := .running { inv with decoder := (inv.decoder.run w.unread).decoder } })
  /-- An invocation reads its reply to the end. -/
  | completes {p : Pool} {i : Nat} {w : Worker} {inv : Invocation} : p.workers[i]? = some w →
      w.hold = .running inv → (inv.decoder.run w.unread).done = true →
      Stir p ((((p.notes ((inv.decoder.run w.unread).complaints.map .complained)).setWorker i
        { w with unread := (inv.decoder.run w.unread).rest }).note
          (.completed i inv.call (inv.decoder.run w.unread).decoder.reply)).finish i inv.call
            (.reply (inv.decoder.run w.unread).decoder.reply))
  /-- An invocation fails because the output has ended. -/
  | closes {p : Pool} {i : Nat} {w : Worker} {inv : Invocation} : p.workers[i]? = some w →
      w.hold = .running inv → w.alive = false → w.unread = [] →
      Stir p ((p.setWorker i { w with terminated := true }).finish i inv.call (.failed (.closed i)))
  /-- An invocation ends because its time is up. -/
  | expires {p : Pool} {i : Nat} {w : Worker} {inv : Invocation} : p.workers[i]? = some w →
      w.hold = .running inv → inv.started + p.settings.workerTimeout ≤ p.clock →
      Stir p (p.finish i inv.call timedOut)
  /-- Waiting ends for some of those whose time is up. -/
  | givesUp {p : Pool} (which : Waiter → Bool) : Stir p (p.expireWaiting which)
  /-- Time passes, but past no deadline. -/
  | ticks {p : Pool} {n : Nat} : (∀ t ∈ p.deadlines, p.clock < t → p.clock + n ≤ t) →
      Stir p { p with clock := p.clock + n }
  /-- An interpreter prints on its error output. -/
  | errs {p : Pool} {i : Nat} {w : Worker} (data : List UInt8) : p.workers[i]? = some w →
      Stir p ((p.setWorker i { w with errWaiting := (Output.feed w.errWaiting data).2 }).notes
        (said i (Output.feed w.errWaiting data).1))
  /-- An interpreter reads no more. -/
  | deafens {p : Pool} {i : Nat} {w : Worker} : p.workers[i]? = some w →
      Stir p (p.setWorker i { w with reading := false })

/-- What happens to a pool without a call coming in or being dropped. -/
inductive Move : Pool → Pool → Prop where
  /-- Its processes live on. -/
  | stirs {p q : Pool} : Stir p q → Move p q
  /-- All waiting calls are woken. -/
  | wakesAll {p : Pool} : Move p p.roused
  /-- An interpreter dies. -/
  | dies {p : Pool} {i : Nat} {w : Worker} : p.workers[i]? = some w → w.alive = true →
      Move p (p.die i w)
  /-- That it died is reported. -/
  | reports {p : Pool} {i : Nat} : Move p (p.note (.exitedUnexpectedly i))
  /-- A worker whose process is dead is terminated. -/
  | marks {p : Pool} {i : Nat} {w : Worker} : p.workers[i]? = some w → w.alive = false →
      Move p (p.setWorker i { w with terminated := true })

/-- Any number of stirs. -/
abbrev Stirs : Pool → Pool → Prop := ReflTransGen Stir

/-- Any number of moves. -/
abbrev Moves : Pool → Pool → Prop := ReflTransGen Move

theorem moves_of_stirs {p q : Pool} (h : Stirs p q) : Moves p q := h.lift id fun _ _ => .stirs

/-- A call comes in, and has its place afterwards unless it is turned away at once. -/
inductive Enters (p : Pool) (c : Call) : Pool → Prop where
  /-- The call looks for a worker. -/
  | looks : Enters p c
      { p with ready := p.ready ++ [.look ⟨c, p.clock + p.settings.dispatchTimeout⟩] }
  /-- The call is granted a free worker. -/
  | granted {i : Nat} {w : Worker} : p.workers[i]? = some w → w.isFree = true →
      Enters p c { p.setWorker i { w with hold := .granted c } with ready := p.ready ++ [.start i] }
  /-- The call waits for a worker that somebody has. -/
  | queued {i : Nat} {w : Worker} : p.workers[i]? = some w → w.terminated = false →
      w.hold ≠ .free → Enters p c (p.setWorker i { w with queue := w.queue ++ [c] })
  /-- The call is turned away. -/
  | rejected {i : Nat} {w : Worker} {o : Outcome} : p.workers[i]? = some w →
      (w.terminated = true ∧ o = .failed (.terminated i)) ∨ (w.isFree = false ∧ o = .refused) →
      Enters p c (p.note (.ended c o))

/-- A call of a name is dropped. -/
inductive Drops (p : Pool) (name : String) : Pool → Prop where
  /-- It has a worker. -/
  | running {i : Nat} {w : Worker} {inv : Invocation} : p.workers[i]? = some w →
      w.hold = .running inv → inv.call.name = name → Drops p name (p.release i)
  /-- It waits for a worker. -/
  | queued {i : Nat} {w : Worker} : p.workers[i]? = some w → queues name w = true →
      Drops p name (p.setWorker i { w with queue := w.queue.filter (·.name != name) })
  /-- It waits for any worker. -/
  | waiting : p.waiting.any (·.call.name == name) = true →
      Drops p name { p with waiting := p.waiting.filter (·.call.name != name) }

/-- An interpreter that runs prints. -/
inductive Prints (p : Pool) (i : Nat) (data : List UInt8) : Pool → Prop where
  /-- The lines that it completes are there to be read. -/
  | feeds {w : Worker} : p.workers[i]? = some w → w.alive = true → Prints p i data
      (p.setWorker i { w with
        outWaiting := (Output.feed w.outWaiting data).2
        unread := w.unread ++ (Output.feed w.outWaiting data).1 })

/-! ### Small facts about the operations -/

theorem running?_eq_some_iff {w : Worker} {inv : Invocation} :
    w.running? = some inv ↔ w.hold = .running inv := by
  unfold Worker.running?
  split <;> simp_all

theorem freeWorker?_eq_none_iff {p : Pool} :
    p.freeWorker? = none ↔ ∀ w ∈ p.workers, w.isFree = false := by
  simp [freeWorker?, List.findIdx?_eq_none_iff]

theorem isFree_of_freeWorker? {p : Pool} {i : Nat} (h : p.freeWorker? = some i) :
    ∃ w, p.workers[i]? = some w ∧ w.isFree = true := by
  obtain ⟨hi, hw, -⟩ := List.findIdx?_eq_some_iff_getElem.1 h
  exact ⟨_, List.getElem?_eq_getElem hi, hw⟩

theorem isFree_iff {w : Worker} : w.isFree = true ↔ w.terminated = false ∧ w.hold = .free := by
  simp [Worker.isFree]

section

variable {p q : Pool} {i : Nat} {c : Call} (h : Comes p i c q)
include h

theorem Comes.workers : q.workers = p.workers := by cases h <;> rfl

theorem Comes.waiting : q.waiting = p.waiting := by cases h <;> rfl

theorem Comes.effects : q.effects = p.effects := by cases h <;> rfl

theorem Comes.getElem? : ∃ w, q.workers[i]? = some w := by
  cases h with
  | granted hr hw _ => exact ⟨_, hw⟩
  | woken hr hf _ =>
    obtain ⟨w, hw, -⟩ := isFree_of_freeWorker? hf
    exact ⟨w, hw⟩

theorem Comes.workers_seize (w : Worker) :
    (q.seize i w c).workers = p.workers.set i (w.seizedBy c q.clock) := by
  rw [Pool.workers_seize, h.workers]

theorem Comes.effects_seize (w : Worker) :
    (q.seize i w c).effects = p.effects ++ [.obtained i c, .wrote i (textFor w c)] := by
  rw [Pool.effects_seize, h.effects]

variable {w : Worker} (hw : q.workers[i]? = some w) (o : Outcome)
include hw

theorem Comes.workers_fail :
    ((q.note (.obtained i c)).finish i c o).workers = p.workers.set i w.passedOn := by
  rw [workers_finish (p := q.note (.obtained i c)) hw, workers_note, h.workers]

theorem Comes.effects_fail :
    ((q.note (.obtained i c)).finish i c o).effects =
      p.effects ++ [.obtained i c, .ended c o] := by
  rw [effects_finish (p := q.note (.obtained i c)) hw, effects_note, h.effects, List.append_assoc]
  rfl

end

theorem effects_expireWaiting (p : Pool) (which : Waiter → Bool) :
    (p.expireWaiting which).effects = p.effects ++ (p.waiting.filter fun d =>
      d.deadline ≤ p.clock && which d).map fun d => .ended d.call unavailable := by
  simp [expireWaiting, notes, unavailable]

/-- Those wait on that have time left, or are not among the calls in question. -/
theorem waiting_expireWaiting (p : Pool) (which : Waiter → Bool) :
    (p.expireWaiting which).waiting =
      p.waiting.filter fun d => !(d.deadline ≤ p.clock && which d) := by
  simp only [expireWaiting, List.partition_eq_filter_filter, waiting_notes, Function.comp_def]

/-! ### Turns are stirs -/

theorem proceed_stirs (p : Pool) (i : Nat) : Stirs p (p.proceed i) := by
  unfold proceed
  split
  next => exact .refl
  next w hw =>
    split
    next inv hinv =>
      dsimp only
      by_cases hd : (inv.decoder.run w.unread).done = true
      · rw [if_pos hd]
        exact .single (.completes hw hinv hd)
      · have hd : (inv.decoder.run w.unread).done = false := Bool.eq_false_iff.2 hd
        have hrest : (inv.decoder.run w.unread).rest = [] := (Decoder.run_of_not_done hd).2.1
        have hreads := Stir.reads hw hinv hd
        set p₁ := p.notes ((inv.decoder.run w.unread).complaints.map .complained) with hp₁
        have hw₁ : p₁.workers[i]? = some w := hw
        set w₁ : Worker := { w with
          unread := (inv.decoder.run w.unread).rest
          hold := .running { inv with decoder := (inv.decoder.run w.unread).decoder } } with hw₁def
        have hget : (p₁.setWorker i w₁).workers[i]? = some w₁ := getElem?_setWorker hw₁ w₁
        rw [if_neg (by simp [hd])]
        split
        next ha =>
          have ha : w.alive = false := by simpa using ha
          have hcloses := Stir.closes hget rfl ha hrest
          rw [setWorker_setWorker] at hcloses
          have heq := finish_setWorker_hold hw₁
            { w with unread := (inv.decoder.run w.unread).rest, terminated := true } w₁.hold
            inv.call (.failed (.closed i))
          rw [← heq]
          exact (ReflTransGen.single hreads).tail hcloses
        next =>
          split
          next ht =>
            have hexpires := Stir.expires hget rfl ht
            have heq := finish_setWorker_hold hw₁
              { w with unread := (inv.decoder.run w.unread).rest } w₁.hold inv.call timedOut
            rw [timedOut] at heq
            rw [← heq]
            exact (ReflTransGen.single hreads).tail hexpires
          next => exact .single hreads
    next => exact .refl

theorem start_stirs {p q : Pool} {i : Nat} {c : Call} (h : Comes p i c q) :
    Stirs p (q.start i c) := by
  obtain ⟨w, hw⟩ := h.getElem?
  unfold start
  simp only [hw]
  split
  next hr => exact (ReflTransGen.single (.begins h hw hr)).trans (proceed_stirs _ _)
  next hr => exact .single (.fails h hw (by simpa using hr))

theorem turn_stirs {p : Pool} {t : Turn} {ts : List Turn} (h : p.ready = t :: ts) :
    Stirs p (({ p with ready := ts } : Pool).turn t) := by
  cases t with
  | start i =>
    simp only [turn]
    split
    next c hc =>
      obtain ⟨w, hw, hg⟩ := Option.map_eq_some_iff.1 hc
      exact start_stirs (.granted h hw hg)
    next hn =>
      refine .single (.idles h fun w hw c hg => hn c ?_)
      rw [Option.mem_def.1 hw, Option.map_some, hg]
  | look d =>
    simp only [turn, look]
    split
    next i hi => exact start_stirs (.woken h hi rfl)
    next hf =>
      have hf : p.freeWorker? = none := hf
      split
      next hd => exact .single (.turnsAway p.permit h hf (.inl (by simpa [Dead] using hd)))
      next hd =>
        have hd : ¬ p.Dead := by simpa [Dead] using hd
        split
        next ht => exact .single (.turnsAway false h hf (.inr ht))
        next ht => exact .single (.waits h hf hd (Nat.lt_of_not_le ht))

theorem settle_of_nil {p : Pool} (h : p.ready = []) : p.settle = p := by
  rw [settle]
  split
  · rfl
  · simp_all

theorem settle_of_cons {p : Pool} {t : Turn} {ts : List Turn} (h : p.ready = t :: ts) :
    p.settle = (({ p with ready := ts } : Pool).turn t).settle := by
  rw [settle]
  split
  · simp_all
  · rename_i t' ts' h'
    rw [h] at h'
    cases h'
    rfl

theorem settle_stirs (p : Pool) : Stirs p p.settle := by
  induction p using settle.induct with
  | case1 p h => rw [settle_of_nil h]
  | case2 p t ts h ih =>
    rw [settle_of_cons h]
    exact (turn_stirs h).trans ih

/-- A settled pool has no turns. -/
@[simp] theorem ready_settle (p : Pool) : p.settle.ready = [] := by
  induction p using settle.induct with
  | case1 p h => rw [settle_of_nil h, h]
  | case2 p t ts h ih => rw [settle_of_cons h, ih]

end FunctionHost.Pool
