import FunctionHost.Gateway
import FunctionHost.Proofs.Pool.Clock
/-!
# What is done to a gateway

A deed is an action on the gateway's pool, or a request that is served: its call is dispatched to the
pool, unless the filter rejects it. So what deeds do to the pool is a run of actions (`actions`).

Main statements: `pool_after` and `seen_eq_history`, the pool behind the gateway is the one that the
run leaves, and shows what the run shows.
-/

namespace FunctionHost.Gateway

open FunctionHost.Pool

/-- Something done to a gateway. -/
inductive Deed where
  /-- An action on its pool. -/
  | acts (a : Action)
  /-- A request is served that comes with an id in `slot`, from the peer `remote`. -/
  | serves (name : String) (r : Request) (slot : Option String) (remote : String)

/-- A gateway with one interpreter that turns no request away. -/
def single : Gateway := { accepts := fun _ => true, pool := launched .plain 1 }

/-- Does a deed. The answer is that of the action, or what becomes of the request. -/
def perform (g : Gateway) : Deed → (Answer ⊕ Served) × Gateway
  | .acts a => (g.step a).map .inl id
  | .serves name r slot remote => (g.serve name r slot remote).map .inr id

/-- The gateway after deeds done one after another. -/
def after (g : Gateway) (ds : List Deed) : Gateway := ds.foldl (fun g d => (g.perform d).2) g

/-- All that is seen of the pool meanwhile. -/
def seen (g : Gateway) : List Deed → List Effect
  | [] => []
  | d :: ds => (g.perform d).2.pool.effects ++ (g.perform d).2.seen ds

/-- What a deed does to the pool. -/
def actionsOf (g : Gateway) : Deed → List Action
  | .acts a => [a]
  | .serves name r slot remote =>
    if g.accepts r.uri.requestText then
      [.dispatch (g.callOf name r (g.ids.obtain slot).1 remote)]
    else []

theorem actionsOf_of_accepts {g : Gateway} {name remote : String} {r : Request}
    {slot : Option String} (h : g.accepts r.uri.requestText = true) :
    g.actionsOf (.serves name r slot remote) =
      [.dispatch (g.callOf name r (g.ids.obtain slot).1 remote)] := if_pos h

theorem actionsOf_of_rejects {g : Gateway} {name remote : String} {r : Request}
    {slot : Option String} (h : ¬ g.accepts r.uri.requestText = true) :
    g.actionsOf (.serves name r slot remote) = [] := if_neg h

/-- What deeds do to the pool. -/
def actions (g : Gateway) : List Deed → List Action
  | [] => []
  | d :: ds => g.actionsOf d ++ (g.perform d).2.actions ds

/-- A deed is a run of one action or none. -/
theorem pool_perform (g : Gateway) (d : Deed) :
    (g.perform d).2.pool.unseen = (g.pool.after (g.actionsOf d)).unseen ∧
      (g.perform d).2.pool.effects = history g.pool (g.actionsOf d) := by
  cases d with
  | acts a => exact ⟨rfl, (List.append_nil _).symm⟩
  | serves name r slot remote =>
    unfold perform serve actionsOf
    dsimp only
    split
    · exact ⟨rfl, (List.append_nil _).symm⟩
    · exact ⟨rfl, rfl⟩

/-- The pool behind a gateway is the one that the run leaves. -/
theorem pool_after (g : Gateway) (ds : List Deed) :
    (g.after ds).pool.unseen = (g.pool.after (g.actions ds)).unseen := by
  induction ds generalizing g with
  | nil => rfl
  | cons d ds ih =>
    rw [actions, after_append]
    exact (ih (g.perform d).2).trans (unseen_after_congr (pool_perform g d).1 _)

/-- The pool behind a gateway shows what the run shows. -/
theorem seen_eq_history (g : Gateway) (ds : List Deed) :
    g.seen ds = history g.pool (g.actions ds) := by
  induction ds generalizing g with
  | nil => rfl
  | cons d ds ih =>
    rw [seen, actions, history_append, (pool_perform g d).2, ih,
      history_congr (pool_perform g d).1]

end FunctionHost.Gateway
