import FunctionHost.Pool.Action
import Mathlib.Data.List.Induction
/-!
# Runs of a pool

A run is a list of actions done one after another. This module has what a run leaves (`after`) and
what it gives on the way: all that is seen (`history`), the calls that are made (`made`), the names
under which calls are dropped (`dropped`), and the bytes that an interpreter prints (`printed`).
Each is `along` a run, so one lemma says how it continues (`along_concat`).

Main statement: `after_induction`, what every step keeps holds after every run.
-/

namespace FunctionHost

/-- Settings of a pool for concrete runs. -/
def PoolSettings.plain : PoolSettings :=
  { name := "f", module := "m", handler := "h", workerTimeout := 100, dispatchTimeout := 1000 }

/-- A call for concrete runs; its name is the id of its request. -/
def Call.plain (name : String) : Call :=
  { name, origin := .dispatched, module := "m", handler := "h", event := { requestId := name } }

namespace Pool

/-- The pool after a run. -/
def after (p : Pool) (as : List Action) : Pool := as.foldl (fun p a => (p.step a).2) p

/-- What the actions of a run give, one after another. -/
def along {α : Type} (f : Pool → Action → List α) (p : Pool) : List Action → List α
  | [] => []
  | a :: as => f p a ++ along f (p.step a).2 as

/-- All that is seen in a run. -/
def history (p : Pool) (as : List Action) : List Effect :=
  along (fun p a => (p.step a).2.effects) p as

/-- The call that an action makes, on the pool or on a worker that exists. -/
def madeBy (p : Pool) : Action → List Call
  | .dispatch c => [c]
  | .handle i c => if i < p.workers.length then [c] else []
  | .tryHandle i c => if i < p.workers.length then [c] else []
  | _ => []

/-- The calls made in a run. -/
def made (p : Pool) (as : List Action) : List Call := along madeBy p as

/-- The name under which an action drops a call. -/
def droppedBy (p : Pool) : Action → List String
  | .cancel name => if (p.step (.cancel name)).1 = .ok then [name] else []
  | _ => []

/-- The names under which calls are dropped in a run. -/
def dropped (p : Pool) (as : List Action) : List String := along droppedBy p as

/-- What worker `i` prints in an action. -/
def printedBy (i : Nat) (p : Pool) : Action → List UInt8
  | .stdout j data => if j = i ∧ (p.step (.stdout j data)).1 = .ok then data else []
  | _ => []

/-- What worker `i` prints in a run. -/
def printed (i : Nat) (p : Pool) (as : List Action) : List UInt8 := along (printedBy i) p as

@[simp] theorem after_nil (p : Pool) : p.after [] = p := rfl

theorem after_cons (p : Pool) (a : Action) (as : List Action) :
    p.after (a :: as) = (p.step a).2.after as := rfl

theorem after_concat (p : Pool) (as : List Action) (a : Action) :
    p.after (as ++ [a]) = ((p.after as).step a).2 := by
  simp [after]

@[simp] theorem along_nil {α : Type} (f : Pool → Action → List α) (p : Pool) :
    along f p [] = [] := rfl

theorem along_append {α : Type} (f : Pool → Action → List α) (p : Pool) (as bs : List Action) :
    along f p (as ++ bs) = along f p as ++ along f (p.after as) bs := by
  induction as generalizing p with
  | nil => rfl
  | cons a as ih =>
    rw [List.cons_append, along, along, ih, List.append_assoc, after_cons]

theorem along_concat {α : Type} (f : Pool → Action → List α) (p : Pool) (as : List Action)
    (a : Action) : along f p (as ++ [a]) = along f p as ++ f (p.after as) a := by
  rw [along_append, along, along_nil, List.append_nil]

theorem after_append (p : Pool) (as bs : List Action) :
    p.after (as ++ bs) = (p.after as).after bs := by
  simp [after]

/-- What a run gives on the way is given by one of its actions. -/
theorem mem_along_iff {α : Type} {f : Pool → Action → List α} {p : Pool} {as : List Action}
    {x : α} : x ∈ along f p as ↔ ∃ bs a cs, as = bs ++ a :: cs ∧ x ∈ f (p.after bs) a := by
  induction as generalizing p with
  | nil => simp
  | cons a as ih =>
    rw [along, List.mem_append, ih]
    constructor
    · rintro (h | ⟨bs, b, cs, rfl, h⟩)
      · exact ⟨[], a, as, rfl, h⟩
      · exact ⟨a :: bs, b, cs, rfl, h⟩
    · rintro ⟨bs, b, cs, heq, h⟩
      cases bs with
      | nil =>
        cases heq
        exact .inl h
      | cons d bs =>
        cases heq
        exact .inr ⟨bs, b, cs, rfl, h⟩

section

variable (p : Pool) (as : List Action) (a : Action)

theorem history_append (bs : List Action) :
    history p (as ++ bs) = history p as ++ history (p.after as) bs :=
  along_append _ p as bs

theorem history_concat : history p (as ++ [a]) = history p as ++ ((p.after as).step a).2.effects :=
  along_concat _ p as a

theorem made_concat : made p (as ++ [a]) = made p as ++ madeBy (p.after as) a :=
  along_concat _ p as a

theorem printed_concat (i : Nat) :
    printed i p (as ++ [a]) = printed i p as ++ printedBy i (p.after as) a :=
  along_concat _ p as a

end

/-- What the pool at the start satisfies and every step keeps, holds after every run. The statement
may be about the run itself. -/
theorem after_induction {p : Pool} {motive : List Action → Pool → Prop} (start : motive [] p)
    (step : ∀ as a, motive as (p.after as) → motive (as ++ [a]) ((p.after as).step a).2)
    (as : List Action) : motive as (p.after as) := by
  induction as using List.reverseRecOn with
  | nil => exact start
  | append_singleton as a ih =>
    rw [after_concat]
    exact step as a ih

end Pool

end FunctionHost
