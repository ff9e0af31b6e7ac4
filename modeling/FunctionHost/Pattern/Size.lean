import FunctionHost.Pattern.ByteRange
import FunctionHost.Pattern.Term
import FunctionHost.Pattern.Trie
import FunctionHost.Text.Utf8
import Std.Data.HashMap
/-!
# The size of patterns

Patterns that would need too much memory are refused. The memory is that of two automata over bytes,
one that reads forward and one that reads backward, in which every repetition is written out;
`Term.fits` says that neither is too large, unless none is needed. Every node has `nodeBytes` bytes,
an edge of a branching node `branchBytes`, and an edge of a node that reads one of several byte
ranges `edgeBytes`.

A set of characters beyond ASCII shares nodes among its byte sequences. Nodes that may be shared are
looked up in a table with a fixed number of slots, in which a later node takes the slot of an
earlier one; so what is shared depends on the numbers of the nodes.
-/

namespace FunctionHost.Pattern

open FunctionHost.Text FunctionHost.Unicode

/-- The bytes of a node. -/
def nodeBytes : Nat := 32

/-- The bytes of an edge of a node that branches. -/
def branchBytes : Nat := 4

/-- The bytes of an edge of a node that reads one of several byte ranges. -/
def edgeBytes : Nat := 8

/-- The most bytes of an automaton: ten mebibytes. -/
def maxBytes : Nat := 10485760

/-- Which way an automaton reads. -/
inductive Direction where
  /-- From the beginning. -/
  | forward
  /-- From the end. -/
  | backward
deriving DecidableEq, Repr

/-- The size of an automaton under way. -/
structure Usage where
  /-- The number of nodes, which is also the number of the next node. -/
  nodes : Nat := 0
  /-- The bytes. -/
  bytes : Nat := 0
deriving DecidableEq, Repr

namespace Usage

/-- Adds bytes, unless there would be too many. -/
def addBytes? (u : Usage) (n : Nat) : Option Usage :=
  if u.bytes + n ≤ maxBytes then some { u with bytes := u.bytes + n } else none

/-- Adds nodes without edges of their own. -/
def addNodes? (u : Usage) (n : Nat) : Option Usage :=
  addBytes? { u with nodes := u.nodes + n } (n * nodeBytes)

/-- Adds a node that branches in so many ways. -/
def addBranch? (u : Usage) (ways : Nat) : Option Usage :=
  addBytes? { u with nodes := u.nodes + 1 } (nodeBytes + ways * branchBytes)

/-- Adds a node that reads one of so many byte ranges. -/
def addReader? (u : Usage) (ranges : Nat) : Option Usage :=
  addBytes? { u with nodes := u.nodes + 1 } (nodeBytes + ranges * edgeBytes)

/-- Adds something so many times. -/
def addTimes? (f : Usage → Option Usage) : Nat → Usage → Option Usage
  | 0, u => some u
  | n + 1, u =>
    match f u with
    | none => none
    | some u => addTimes? f n u

end Usage

/-! ### Sets -/

/-- The slot of a list of numbers in a table with so many slots. -/
def slotOf (slots : Nat) (ns : List Nat) : Nat :=
  let hash := ns.foldl (fun (h : UInt64) n => (h ^^^ n.toUInt64) * 1099511628211)
    14695981039346656037
  hash.toNat % slots

/-- An automaton under way with the nodes that may be shared: in every slot the key of a node and
its number. -/
structure Sharing where
  /-- The size. -/
  usage : Usage
  /-- The slots. -/
  table : Std.HashMap Nat (List Nat × Nat) := {}

/-- Adds a node with a key by `add`, and puts it into a slot. -/
def Sharing.newNode? (s : Sharing) (slot : Nat) (key : List Nat) (add : Usage → Option Usage) :
    Option (Nat × Sharing) :=
  (add s.usage).map fun u => (s.usage.nodes, ⟨u, s.table.insert slot (key, s.usage.nodes)⟩)

/-- The number of the node with a key in a table with so many slots. A node that is not in the table
is added by `add`. -/
def Sharing.node? (s : Sharing) (slots : Nat) (key : List Nat) (add : Usage → Option Usage) :
    Option (Nat × Sharing) :=
  let slot := slotOf slots key
  match s.table[slot]? with
  | some (k, n) => if k = key then some (n, s) else s.newNode? slot key add
  | none => s.newNode? slot key add

/-- The slots of a table for automata that read forward. -/
def forwardSlots : Nat := 10000

/-- The slots of a table for automata that read backward. -/
def backwardSlots : Nat := 1000

/-- Adds the nodes that read byte sequences forward to the node `target`, in so many steps at most;
gives the edges of the first node, each as three numbers. -/
def Sharing.addEdges? (target : Nat) : Nat → List (List ByteRange) → Sharing →
    Option (List Nat × Sharing)
  | 0, _, s => some ([], s)
  | steps + 1, sequences, s =>
    (groupByFirst sequences).foldlM (fun (edges, s) (r, rests) => do
      if rests.all List.isEmpty then return (edges ++ [r.1, r.2, target], s)
      else
        let (key, s) ← s.addEdges? target steps rests
        let (n, s) ← s.node? forwardSlots key (·.addReader? (key.length / 3))
        return (edges ++ [r.1, r.2, n], s)) ([], s)

/-- The most bytes of a character. -/
def maxCharBytes : Nat := 4

/-- Adds the nodes that read one of several byte sequences forward. -/
def Usage.addForward? (u : Usage) (sequences : List (List ByteRange)) : Option Usage := do
  let (key, s) ← (Sharing.mk (← u.addNodes? 1) {}).addEdges? u.nodes maxCharBytes sequences
  let (_, s) ← s.node? forwardSlots key (·.addReader? (key.length / 3))
  return s.usage

/-- Adds the nodes that read a byte sequence backward to the node `target`. -/
def Sharing.addBackward? (target : Nat) (s : Sharing) (sequence : List ByteRange) :
    Option Sharing := do
  let (_, s) ← sequence.foldlM (fun ((next, s) : Nat × Sharing) r =>
    s.node? backwardSlots [next, r.1, r.2] (·.addNodes? 1)) (target, s)
  return s

/-- Adds the nodes that read one of several byte sequences backward. -/
def Usage.addBackward? (u : Usage) (sequences : List (List ByteRange)) : Option Usage := do
  let u ← u.addBranch? sequences.length
  let s ← sequences.foldlM (Sharing.addBackward? u.nodes) ⟨← u.addNodes? 1, {}⟩
  return s.usage

/-- Adds the nodes that read a character of a set. -/
def Usage.addSet? (d : Direction) (r : Ranges) (u : Usage) : Option Usage :=
  if r.isAscii then do (← u.addNodes? 1).addReader? r.list.length
  else
    match d with
    | .forward => u.addForward? (byteSequences r)
    | .backward => u.addBackward? (byteSequences r)

/-! ### Alternatives that are texts -/

mutual

/-- Adds the nodes of a trie: a node that branches to the groups of branches, and to the end for
every text that ends here. -/
def Trie.use? : Trie → Usage → Option Usage
  | .node groups, u => do
    let filled := (groups.filter fun g => !g.isEmpty).length
    (← Trie.useGroups? groups u).addBranch? (filled + (groups.length - 1))

/-- Adds the nodes of groups of branches. -/
def Trie.useGroups? : List (List (UInt8 × Trie)) → Usage → Option Usage
  | [], u => some u
  | g :: gs, u => do
    let u ← Trie.useBranches? g u
    let u ← match g with
      | [] => some u
      | [_] => u.addNodes? 1
      | g => u.addReader? g.length
    useGroups? gs u

/-- Adds the nodes after branches; where no text goes on, there are none. -/
def Trie.useBranches? : List (UInt8 × Trie) → Usage → Option Usage
  | [], u => some u
  | (_, t) :: branches, u => do
    useBranches? branches (← if t.isLeaf then some u else t.use? u)

end

/-- The texts that terms are, if each is one. -/
def literals? : List Term → Option (List (List Char))
  | [] => some []
  | .literal cs :: ts => (literals? ts).map (cs :: ·)
  | _ :: _ => none

/-- The bytes of a text in the order in which they are read. -/
def Direction.bytes (d : Direction) (cs : List Char) : List UInt8 :=
  match d with
  | .forward => Utf8.encode cs
  | .backward => (Utf8.encode cs).reverse

/-- Adds the nodes that read one of several texts. -/
def Usage.addLiterals? (d : Direction) (texts : List (List Char)) (u : Usage) : Option Usage := do
  (Trie.ofList (texts.map d.bytes)).use? (← u.addNodes? 1)

/-! ### Terms -/

mutual

/-- The least number of characters of a match. Nothing, if a part can match nothing at all. -/
def Term.least? : Term → Option Nat
  | .empty => some 0
  | .look _ => some 0
  | .literal cs => some cs.length
  | .set r => if r.isEmpty then none else some 1
  | .times least _ _ t => t.least?.map (least * ·)
  | .capture t => t.least?
  | .sequence ts => (Term.leasts? ts).map List.sum
  | .alternatives ts => (Term.leasts? ts).bind List.min?

/-- The least numbers of characters of the matches of several terms. -/
def Term.leasts? : List Term → Option (List Nat)
  | [] => some []
  | t :: ts => do return (← t.least?) :: (← leasts? ts)

end

/-- Every match has a character. -/
def Term.isSolid (t : Term) : Bool := t.least?.any (0 < ·)

mutual

/-- Adds the nodes of a term. Groups capture only forward. -/
def Term.use? (d : Direction) : Term → Usage → Option Usage
  | .empty, u => u.addNodes? 1
  | .look _, u => u.addNodes? 1
  | .literal cs, u => u.addNodes? (d.bytes cs).length
  | .set r, u => u.addSet? d r
  | .capture t, u =>
    match d with
    | .forward => do (← t.use? d (← u.addNodes? 1)).addNodes? 1
    | .backward => t.use? d u
  | .times least most _ t, u =>
    match most with
    | none =>
      if 0 < least then do (← Usage.addTimes? (t.use? d) least u).addBranch? 2
      else if t.isSolid then do t.use? d (← u.addBranch? 2)
      else do (← (← (← t.use? d u).addBranch? 2).addBranch? 2).addNodes? 1
    | some most =>
      if least = most then Usage.addTimes? (t.use? d) least u
      else if least = 0 ∧ most = 1 then do (← t.use? d (← u.addBranch? 2)).addNodes? 1
      else do
        let u ← if least = 0 then u.addNodes? 1 else Usage.addTimes? (t.use? d) least u
        Usage.addTimes? (fun u => do t.use? d (← u.addBranch? 2)) (most - least) (← u.addNodes? 1)
  | .sequence ts, u => Term.useAll? d ts u
  | .alternatives ts, u =>
    match literals? ts with
    | some texts => u.addLiterals? d texts
    | none => Term.useAny? d ts u

/-- Adds the nodes of terms one after another. -/
def Term.useAll? (d : Direction) : List Term → Usage → Option Usage
  | [], u => some u
  | t :: ts, u =>
    match d with
    | .forward => do useAll? d ts (← t.use? d u)
    | .backward => do t.use? d (← useAll? d ts u)

/-- Adds the nodes of alternatives; the node that branches comes after the first two. -/
def Term.useAny? (d : Direction) : List Term → Usage → Option Usage
  | t :: v :: ts, u => do
    let u ← (← v.use? d (← t.use? d u)).addBranch? (ts.length + 2)
    useEach? d ts (← u.addNodes? 1)
  | ts, u => useEach? d ts u

/-- Adds the nodes of each of several terms. -/
def Term.useEach? (d : Direction) : List Term → Usage → Option Usage
  | [], u => some u
  | t :: ts, u => do useEach? d ts (← t.use? d u)

end

/-! ### Patterns -/

mutual

/-- Every match begins where the text does. -/
def Term.opensText : Term → Bool
  | .look l => l == .textStart
  | .capture t => t.opensText
  | .times least _ _ t => 0 < least && t.opensText
  | .sequence ts => Term.firstOpensText ts
  | .alternatives ts => Term.allOpenText ts
  | _ => false

/-- One of the terms opens the text, and those before it match no character. -/
def Term.firstOpensText : List Term → Bool
  | [] => false
  | t :: ts => t.opensText || t.isBlank && firstOpensText ts

/-- Each of the terms opens the text. -/
def Term.allOpenText : List Term → Bool
  | [] => true
  | t :: ts => t.opensText && allOpenText ts

end

mutual

/-- Every match ends where the text does. -/
def Term.closesText : Term → Bool
  | .look l => l == .textEnd
  | .capture t => t.closesText
  | .times least _ _ t => 0 < least && t.closesText
  | .sequence ts => Term.lastClosesText ts
  | .alternatives ts => Term.allCloseText ts
  | _ => false

/-- One of the terms closes the text, and those after it match no character. -/
def Term.lastClosesText : List Term → Bool
  | [] => false
  | t :: ts => lastClosesText ts || Term.areBlank ts && t.closesText

/-- Each of the terms closes the text. -/
def Term.allCloseText : List Term → Bool
  | [] => true
  | t :: ts => t.closesText && allCloseText ts

end

/-- The match begins at the end of the text from which an automaton reads. -/
def Term.isAnchored (d : Direction) (t : Term) : Bool :=
  match d with
  | .forward => t.opensText
  | .backward => t.closesText

/-- The size of the automaton of a pattern, if it is not too large. Unless the match begins where
the automaton does, anything may come before; the whole match is captured; and a node accepts. -/
def Term.size? (d : Direction) (t : Term) : Option Usage := do
  let u : Usage := {}
  let u ← if t.isAnchored d then u.addNodes? 1
    else (← (← u.addBranch? 2).addNodes? 1).addReader? 1
  (← (Term.capture t).use? d u).addNodes? 1

/-- So many alternatives that are texts are looked up as texts, without an automaton. -/
def manyTexts : Nat := 3000

/-- A pattern is many texts to choose from. -/
def Term.isTextList : Term → Bool
  | .alternatives ts => (literals? ts).any fun texts => manyTexts ≤ texts.length
  | _ => false

/-- Neither automaton of a pattern is too large, or it needs none. -/
def Term.fits (t : Term) : Bool :=
  t.isTextList || (t.size? .forward).isSome && (t.size? .backward).isSome

end FunctionHost.Pattern
