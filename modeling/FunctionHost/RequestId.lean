import FunctionHost.Text.Digits
/-!
# Request ids

Every request that is accepted has an id. Ids are taken from a slot that goes with the request; if
the slot is empty, the next number of a counter is taken and kept there. A history of requests is a
list of `Step`s on one counter and any number of named slots.

The count is a natural number. A counter of sixty-four bits gives the same ids as long as fewer than
2^64 are minted, and then starts again.
-/

namespace FunctionHost.RequestId

open FunctionHost.Text

/-- Numbered ids with a common beginning. -/
structure Counter where
  /-- What every id begins with. -/
  stem : String := "req"
  /-- How many ids have been minted; sixty-four bits hold it while it is less than 2^64. -/
  issued : Nat := 0
deriving DecidableEq, Repr

/-- The id with a number. -/
def Counter.idOf (c : Counter) (n : Nat) : String := c.stem ++ "-" ++ String.ofList (decimal n)

/-- Mints the next id. -/
def Counter.mint (c : Counter) : String × Counter :=
  (c.idOf (c.issued + 1), { c with issued := c.issued + 1 })

/-- The id in a slot, or the next one if the slot is empty. -/
def Counter.obtain (c : Counter) (slot : Option String) : String × Counter :=
  match slot with
  | some id => (id, c)
  | none => c.mint

/-- Slots by name; a name not listed is an empty slot. -/
abbrev Slots := List (String × String)

/-- What a slot holds. -/
def Slots.get? (s : Slots) (name : String) : Option String := s.lookup name

/-- Empties a slot. -/
def Slots.clear (s : Slots) (name : String) : Slots := s.filter (·.1 != name)

/-- Fills a slot. -/
def Slots.set (s : Slots) (name id : String) : Slots := (name, id) :: s.clear name

/-- One step of a history. -/
inductive Step where
  /-- Mints an id. -/
  | mint
  /-- Asks how many ids have been minted. -/
  | issued
  /-- Takes the id of a slot, minting it if there is none. -/
  | obtain (slot : String)
  /-- Puts an id into a slot. -/
  | set (slot id : String)
  /-- Asks what a slot holds. -/
  | get (slot : String)
  /-- Empties a slot. -/
  | clear (slot : String)
deriving DecidableEq, Repr

/-- The result of a step. -/
inductive Answer where
  /-- An id. -/
  | id (s : String)
  /-- A count. -/
  | count (n : Nat)
  /-- What a slot held. -/
  | slot (s : Option String)
deriving DecidableEq, Repr

/-- A counter with slots. -/
structure Source where
  /-- The counter. -/
  counter : Counter := {}
  /-- The slots. -/
  slots : Slots := []
deriving DecidableEq, Repr

/-- Runs one step. -/
def Source.step (s : Source) : Step → Answer × Source
  | .mint =>
    let (id, c) := s.counter.mint
    (.id id, { s with counter := c })
  | .issued => (.count s.counter.issued, s)
  | .obtain name =>
    let (id, c) := s.counter.obtain (s.slots.get? name)
    (.id id, ⟨c, s.slots.set name id⟩)
  | .set name id => (.slot (s.slots.get? name), { s with slots := s.slots.set name id })
  | .get name => (.slot (s.slots.get? name), s)
  | .clear name => (.slot none, { s with slots := s.slots.clear name })

/-- Runs a history. -/
def Source.run (s : Source) : List Step → List Answer × Source
  | [] => ([], s)
  | st :: sts =>
    let (a, s) := s.step st
    let (as, s) := s.run sts
    (a :: as, s)

end FunctionHost.RequestId
