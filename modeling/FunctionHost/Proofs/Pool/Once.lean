import FunctionHost.Proofs.Pool.Served
/-!
# What happens to a call, happens once

The ledger before an action and the ledger after it differ by what the action lets in and drops
(`ledger_step`). So if no call is made twice in a run, a call that ends in an action was held by the
pool before it, and one that gets a worker was held and not yet in progress. Main statements:
`mem_calls_of_ended` and `mem_calls_of_obtained`.
-/

namespace FunctionHost

/-- The worker that an effect is about, if it is about a call on a worker. -/
def Effect.worker? : Effect → Option Nat
  | .obtained i _ => some i
  | .wrote i _ => some i
  | .completed i _ _ => some i
  | _ => none

namespace Pool

open Relation

/-! ### What a move shows -/

/-- What is seen in a move from one pool to another. -/
inductive Shows (p : Pool) : List Effect → Pool → Prop where
  /-- A call begins. -/
  | begins {q r : Pool} {i : Nat} {c : Call} {t : String} : Comes p i c r →
      Shows p [.obtained i c, .wrote i t] q
  /-- A call fails because the interpreter does not read. -/
  | fails {q r : Pool} {i : Nat} {c : Call} : Comes p i c r → q.callOn i = none →
      Shows p [.obtained i c, .ended c (.failed (.write i))] q
  /-- An invocation reads its reply to the end. -/
  | completes {q : Pool} {i : Nat} {c : Call} {x : Reply} {bs : List BadStatus} :
      p.callOn i = some c →
      Shows p (bs.map .complained ++ [.completed i c x, .ended c (.reply x)]) q
  /-- Nothing about a call on a worker. -/
  | other {q : Pool} {fs : List Effect} : (∀ e ∈ fs, e.worker? = none) → Shows p fs q

section

variable {p q r : Pool} {i : Nat} {c : Call} {fs : List Effect}

theorem worker?_of_said {ls : List String} : ∀ e ∈ said i ls, e.worker? = none := by
  intro e he
  obtain ⟨t, -, rfl⟩ := List.mem_map.1 he
  rfl

theorem worker?_of_ended {o : Outcome} : ∀ e ∈ [Effect.ended c o], e.worker? = none := by
  intro e he
  rw [List.mem_singleton.1 he]
  rfl

theorem Shows.nil : Shows p [] q := .other fun _ he => absurd he List.not_mem_nil

theorem Stir.shows (hm : Stir p q) : ∃ fs, q.effects = p.effects ++ fs ∧ Shows p fs q := by
  have quiet : ∀ {r : Pool}, r.effects = p.effects →
      ∃ fs, r.effects = p.effects ++ fs ∧ Shows p fs r := fun he =>
    ⟨[], he.trans (List.append_nil _).symm, .nil⟩
  cases hm with
  | @begins q i c w hc hw hr => exact ⟨_, hc.effects_seize w, .begins hc⟩
  | @fails q i c w hc hw hr =>
    refine ⟨_, hc.effects_fail hw _, .fails hc ?_⟩
    have hw' : (q.note (.obtained i c)).workers[i]? = some w := hw
    rw [callOn_set hw' (workers_finish hw' _ _), if_pos rfl, w.call?_passedOn]
  | turnsAway b hr hf hd => exact ⟨_, effects_note _ _, .other worker?_of_ended⟩
  | reads hw hinv hd =>
    refine ⟨_, rfl, .other fun e he => ?_⟩
    obtain ⟨b, -, rfl⟩ := List.mem_map.1 he
    rfl
  | @completes i w inv hw hinv hd =>
    refine ⟨_, effects_finish_notes hw _ _ _ _ _, .completes ?_⟩
    exact (callOn_eq hw).trans (Worker.call?_eq_some_iff.2 ⟨inv, hinv, rfl⟩)
  | closes hw hinv ha hu => exact ⟨_, effects_finish_setWorker hw _ _ _, .other worker?_of_ended⟩
  | expires hw hinv ht => exact ⟨_, effects_finish hw _ _, .other worker?_of_ended⟩
  | givesUp =>
    refine ⟨_, effects_expireWaiting p _, .other fun e he => ?_⟩
    obtain ⟨d, -, rfl⟩ := List.mem_map.1 he
    rfl
  | errs data hw => exact ⟨_, rfl, .other worker?_of_said⟩
  | _ => exact quiet rfl

theorem Move.shows (hm : Move p q) : ∃ fs, q.effects = p.effects ++ fs ∧ Shows p fs q := by
  cases hm with
  | stirs hs => exact hs.shows
  | dies hw ha => exact ⟨_, rfl, .other worker?_of_said⟩
  | @reports i =>
    refine ⟨_, effects_note _ _, .other fun e he => ?_⟩
    rw [List.mem_singleton.1 he]
    rfl
  | wakesAll => exact ⟨[], (List.append_nil _).symm, .nil⟩
  | marks hw ha => exact ⟨[], (List.append_nil _).symm, .nil⟩

/-- A call gets a worker when it comes for it. -/
theorem Shows.exists_comes (h : Shows p fs q) (ho : .obtained i c ∈ fs) : ∃ r, Comes p i c r := by
  cases h with
  | @begins _ r k d t hc =>
    obtain ⟨rfl, rfl⟩ : i = k ∧ c = d := by simpa using ho
    exact ⟨r, hc⟩
  | @fails _ r k d hc hn =>
    obtain ⟨rfl, rfl⟩ : i = k ∧ c = d := by simpa using ho
    exact ⟨r, hc⟩
  | completes hc => simp at ho
  | other hno => exact absurd (hno _ ho) (by simp [Effect.worker?])

theorem Moves.exists_comes (hm : Moves p q) (ho : .obtained i c ∈ q.effects)
    (hp : .obtained i c ∉ p.effects) : ∃ r r', Moves p r ∧ Comes r i c r' := by
  induction hm with
  | refl => exact absurd ho hp
  | @tail r q hms hm ih =>
    obtain ⟨fs, he, hshows⟩ := hm.shows
    rw [he] at ho
    rcases List.mem_append.1 ho with ho | ho
    · exact ih ho
    · obtain ⟨r', hc⟩ := hshows.exists_comes ho
      exact ⟨r, r', hms, hc⟩

/-- What an action does by itself shows nothing about a call on a worker. -/
theorem Does.worker? {a : Action} (hd : Does p a q) : ∀ e ∈ q.effects, e.worker? = none := by
  have hnone : ∀ e ∈ p.unseen.effects, e.worker? = none := fun _ he =>
    absurd he List.not_mem_nil
  cases hd with
  | enters _ _ _ he =>
    cases he with
    | rejected hw ho => exact worker?_of_ended
    | _ => exact hnone
  | drops _ _ _ hd =>
    cases hd with
    | running hw hinv hn => rwa [effects_release hw]
    | _ => exact hnone
  | prints _ _ _ _ _ hp =>
    cases hp with
    | feeds hw ha => exact hnone
  | other _ _ _ => exact hnone

theorem Does.not_obtained {a : Action} (hd : Does p a q) : .obtained i c ∉ q.effects := fun ho => by
  cases hd.worker? _ ho

/-- An action ends a call by itself only if it makes it. -/
theorem Does.made_of_ended {a : Action} {o : Outcome} (hd : Does p a q)
    (h : .ended c o ∈ q.effects) : madeBy p a = [c] := by
  cases hd with
  | @enters d _ hmade _ _ he =>
    cases he with
    | rejected hw ho =>
      obtain ⟨rfl, -⟩ : c = d ∧ _ := by simpa [unseen] using h
      exact hmade
    | _ => cases h
  | drops _ _ _ hd =>
    cases hd with
    | running hw hinv hn =>
      rw [effects_release hw] at h
      cases h
    | _ => cases h
  | prints _ _ _ _ _ hp =>
    cases hp with
    | feeds hw ha => cases h
  | other _ _ _ => cases h

/-- A call that ends once ends in one way. -/
theorem outcome_unique_of_count {es : List Effect} {o o' : Outcome} (hle : (endings es).count c ≤ 1)
    (ho : .ended c o ∈ es) (ho' : .ended c o' ∈ es) : o = o' := by
  obtain ⟨before, rest, rfl⟩ := List.append_of_mem ho
  have hone : endings (.ended c o :: rest) = c :: endings rest := rfl
  rw [endings_append, hone, List.count_append, List.count_cons_self] at hle
  rcases List.mem_append.1 ho' with hm | hm
  · have := List.count_pos_iff.2 (mem_endings_iff.2 ⟨o', hm⟩)
    omega
  · rcases List.mem_cons.1 hm with heq | hm
    · cases heq
      rfl
    · have := List.count_pos_iff.2 (mem_endings_iff.2 ⟨o', hm⟩)
      omega

end

section

variable (s : PoolSettings) (n : Nat) (as : List Action) (a : Action)

/-- The ledger before an action, and after what the action does by itself. -/
theorem ledger_step : ∃ gone out q,
    Ledger (made (launched s n) as) gone (history (launched s n) as)
      ((launched s n).after as).unseen ∧
    Does ((launched s n).after as) a q ∧
    Ledger (made (launched s n) (as ++ [a])) (gone ++ out) (history (launched s n) as) q ∧
    Moves q (((launched s n).after as).step a).2 := by
  obtain ⟨gone, hl, -, -⟩ := ledger_after s n as
  obtain ⟨⟨q, hd, hm, -⟩, -⟩ := step_cases _ a (ready_after (p := launched s n) rfl as)
  obtain ⟨out, hq, -, -⟩ := hl.does hd
  rw [← made_concat] at hq
  exact ⟨gone, out, q, hl, hd, hq, hm⟩

variable {s n as a} {c : Call} (h : (made (launched s n) (as ++ [a])).Nodup)
include h

/-- A call that ends in an action had neither ended nor been dropped, so it was as often held as it
was made, and if it had got a worker it was in progress there. -/
theorem held_of_ended {o : Outcome}
    (he : .ended c o ∈ (((launched s n).after as).step a).2.effects) :
    ((launched s n).after as).calls.count c = (made (launched s n) as).count c ∧
      ∀ i, .obtained i c ∈ history (launched s n) as →
        ((launched s n).after as).callOn i = some c := by
  obtain ⟨gone, out, q, hl, -, hq, hm⟩ := ledger_step s n as a
  obtain ⟨hbalance, hobtained, -⟩ := hl.read
  have hbefore := hbalance c
  have hafter := (hq.moves hm).balance c
  have hmade := List.nodup_iff_count_le_one.1 h c
  have hended : 0 < (endings (((launched s n).after as).step a).2.effects).count c :=
    List.count_pos_iff.2 (mem_endings_iff.2 ⟨o, he⟩)
  rw [endings_append, List.count_append, List.count_append] at hafter
  refine ⟨by omega, fun i ho => ?_⟩
  rcases hobtained i c ho with hon | hend | hgone
  · exact hon
  · have := List.count_pos_iff.2 hend
    omega
  · have := List.count_pos_iff.2 hgone
    omega

/-- A call that ends in an action and was made before was held by the pool. -/
theorem mem_calls_of_ended {o : Outcome} (hc : c ∈ made (launched s n) as)
    (he : .ended c o ∈ (((launched s n).after as).step a).2.effects) :
    c ∈ ((launched s n).after as).calls := by
  have hpos := List.count_pos_iff.2 hc
  rw [← (held_of_ended h he).1] at hpos
  exact List.count_pos_iff.1 hpos

/-- A call that gets a worker in an action and was made before was held by the pool, and was not in
progress. -/
theorem mem_calls_of_obtained {i : Nat} (hc : c ∈ made (launched s n) as)
    (ho : .obtained i c ∈ (((launched s n).after as).step a).2.effects) :
    c ∈ ((launched s n).after as).calls ∧ ∀ j, ((launched s n).after as).callOn j ≠ some c := by
  obtain ⟨gone, out, q, hl, hd, hq, hm⟩ := ledger_step s n as a
  obtain ⟨r, r', hmr, hcomes⟩ := Moves.exists_comes hm ho hd.not_obtained
  obtain ⟨hended, hno⟩ := (hq.moves hmr).fresh h hcomes
  obtain ⟨hbalance, -, hrunning⟩ := hl.read
  have hbefore := hbalance c
  have hr := (hq.moves hmr).balance c
  have hmade := List.nodup_iff_count_le_one.1 h c
  have hheld := List.count_pos_iff.2 hcomes.mem_calls
  have hpos := List.count_pos_iff.2 hc
  rw [List.count_append, endings_append, List.count_append] at hr
  refine ⟨List.count_pos_iff.1 (by omega), fun j hj => ?_⟩
  exact hno j (List.mem_append_left _ (hrunning j c hj))

end

/-- If no call is made twice in a run, a call ends in one way. -/
theorem outcome_unique {s : PoolSettings} {n : Nat} {as : List Action} {c : Call} {o o' : Outcome}
    (h : (made (launched s n) as).Nodup) (ho : .ended c o ∈ history (launched s n) as)
    (ho' : .ended c o' ∈ history (launched s n) as) : o = o' := by
  obtain ⟨gone, hl, -, -⟩ := ledger_after s n as
  have hbalance := hl.read.1 c
  have hmade := List.nodup_iff_count_le_one.1 h c
  exact outcome_unique_of_count (by omega) ho ho'

end Pool

end FunctionHost
