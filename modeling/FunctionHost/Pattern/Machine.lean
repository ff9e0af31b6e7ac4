import FunctionHost.Pattern.Term
/-!
# Searching for patterns

A term becomes an automaton whose nodes are numbered: a node reads a character, looks at the place,
or branches. A text is searched in one pass. At every place the automaton also begins anew, and the
search succeeds as soon as the accepting node is reached.
-/

namespace FunctionHost.Pattern

open FunctionHost.Unicode

/-- A node of an automaton. -/
inductive Node where
  /-- A match ends here. -/
  | accept
  /-- Nothing goes on from here. -/
  | dead
  /-- Reads a character of a set. -/
  | read (r : Ranges) (next : Nat)
  /-- Goes on if the place is as it should be. -/
  | look (l : Look) (next : Nat)
  /-- Goes on in two ways. -/
  | branch (a b : Nat)
deriving Repr

/-- The nodes of an automaton, by their numbers. -/
abbrev Nodes := Array Node

/-- Adds a node and gives its number. -/
def Nodes.add (ns : Nodes) (n : Node) : Nat × Nodes := (ns.size, ns.push n)

/-- Does something `n` times to a place in an automaton. -/
def applyTimes (f : Nat → Nodes → Nat × Nodes) : Nat → Nat → Nodes → Nat × Nodes
  | 0, place, ns => (place, ns)
  | n + 1, place, ns =>
    let (place, ns) := f place ns
    applyTimes f n place ns

mutual

/-- Adds nodes that match a term and then go on at `next`; gives the node to begin at. -/
def Term.build (next : Nat) (ns : Nodes) : Term → Nat × Nodes
  | .empty => (next, ns)
  | .literal cs => cs.foldr (fun c (next, ns) => ns.add (.read (.single c.toNat) next)) (next, ns)
  | .set r => ns.add (.read r next)
  | .look l => ns.add (.look l next)
  | .capture t => t.build next ns
  | .times least most _ t =>
    let (place, ns) := match most with
      | none =>
        let (loop, ns) := ns.add .dead
        let (body, ns) := t.build loop ns
        (loop, ns.setIfInBounds loop (.branch body next))
      | some most =>
        applyTimes (fun place ns =>
          let (body, ns) := t.build place ns
          ns.add (.branch body next)) (most - least) next ns
    applyTimes (fun place ns => t.build place ns) least place ns
  | .sequence ts => Term.buildAll next ns ts
  | .alternatives ts => Term.buildAny next ns ts

/-- Adds nodes that match terms one after another. -/
def Term.buildAll (next : Nat) (ns : Nodes) : List Term → Nat × Nodes
  | [] => (next, ns)
  | t :: ts =>
    let (place, ns) := buildAll next ns ts
    t.build place ns

/-- Adds nodes that match one of the terms. -/
def Term.buildAny (next : Nat) (ns : Nodes) : List Term → Nat × Nodes
  | [] => ns.add .dead
  | t :: ts =>
    let (rest, ns) := buildAny next ns ts
    let (place, ns) := t.build next ns
    ns.add (.branch place rest)

end

/-- An automaton with the node at which it begins. -/
structure Automaton where
  /-- The nodes. -/
  nodes : Nodes
  /-- Where it begins. -/
  start : Nat
deriving Repr

/-- The automaton of a term. -/
def Automaton.ofTerm (t : Term) : Automaton :=
  let (start, nodes) := t.build 0 #[.accept]
  ⟨nodes, start⟩

/-! ### Places -/

/-- A place in a text, by the characters on its two sides. -/
structure Place where
  /-- The character before. -/
  before : Option Char
  /-- The character after. -/
  after : Option Char

/-- A set whose ranges ascend has the character as a member. -/
def memberOf (n : Nat) : List (Nat × Nat) → Bool
  | [] => false
  | (a, b) :: rs => if n < a then false else n ≤ b || memberOf n rs

/-- The character belongs to a word. -/
def isWordChar (unicode : Bool) (c : Char) : Bool :=
  memberOf c.toNat (if unicode then wordChars else asciiWordChars).list

/-- The condition on words holds, given whether characters of words stand before and after. -/
def WordLook.holds (before after : Bool) : WordLook → Bool
  | .boundary => before != after
  | .notBoundary => before == after
  | .start => !before && after
  | .stop => before && !after
  | .startHalf => !before
  | .stopHalf => !after

/-- The condition holds at a place. -/
def Look.holds (p : Place) : Look → Bool
  | .textStart => p.before.isNone
  | .textEnd => p.after.isNone
  | .lineStart => p.before.all (· == '\n')
  | .lineEnd => p.after.all (· == '\n')
  | .lineStartReturn =>
    p.before.all fun c => c == '\n' || c == '\r' && p.after != some '\n'
  | .lineEndReturn =>
    p.after.all fun c => c == '\r' || c == '\n' && p.before != some '\r'
  | .word w unicode =>
    w.holds (p.before.any (isWordChar unicode)) (p.after.any (isWordChar unicode))

/-! ### Searching -/

/-- What is reached at a place. -/
structure Reached where
  /-- For each node the place at which it was reached last. -/
  marks : Array Nat
  /-- The sets that may be read next, with the nodes after them. -/
  readers : List (Ranges × Nat)
  /-- A match ends at the place. -/
  accepted : Bool

/-- Reaches nodes from those to do without reading, in so many steps at most. The place has the
number `k`. -/
def Automaton.reach (m : Automaton) (p : Place) (k : Nat) : Nat → List Nat → Reached → Reached
  | 0, _, r => r
  | _ + 1, [], r => r
  | steps + 1, i :: todo, r =>
    if r.marks.getD i 0 = k then m.reach p k steps todo r
    else
      let r := { r with marks := r.marks.setIfInBounds i k }
      match m.nodes.getD i .dead with
      | .accept => { r with accepted := true }
      | .dead => m.reach p k steps todo r
      | .read s next => m.reach p k steps todo { r with readers := (s, next) :: r.readers }
      | .look l next => m.reach p k steps (if l.holds p then next :: todo else todo) r
      | .branch a b => m.reach p k steps (a :: b :: todo) r

/-- Goes on with a search at the place with number `k`, where the nodes `todo` and the first one are
reached. Each node is done once at a place, and leads to two others at most. -/
def Automaton.searchFrom (m : Automaton) (k : Nat) (before : Option Char) (todo : List Nat)
    (marks : Array Nat) : List Char → Bool
  | [] =>
    (m.reach ⟨before, none⟩ k (todo.length + 2 * m.nodes.size + 2) (m.start :: todo)
      ⟨marks, [], false⟩).accepted
  | c :: cs =>
    let r := m.reach ⟨before, some c⟩ k (todo.length + 2 * m.nodes.size + 2) (m.start :: todo)
      ⟨marks, [], false⟩
    r.accepted ||
      m.searchFrom (k + 1) (some c)
        (r.readers.filterMap fun (s, next) => if memberOf c.toNat s.list then some next else none)
        r.marks cs

/-- Whether a match stands somewhere in a text. -/
def Automaton.search (m : Automaton) (text : List Char) : Bool :=
  m.searchFrom 1 none [] (Array.replicate m.nodes.size 0) text

end FunctionHost.Pattern
