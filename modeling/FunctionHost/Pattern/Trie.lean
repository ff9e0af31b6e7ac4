/-!
# Texts that begin alike

A trie holds texts so that what they begin with alike is kept once. A text that ends where others go
on closes the branches there: texts that come later begin new ones, so that the order in which texts
are tried is kept.
-/

namespace FunctionHost.Pattern

/-- A trie: the branches of a place, in the groups that texts ending there have closed. The last
group comes first and is open. -/
inductive Trie where
  /-- A place with its groups of branches. -/
  | node (groups : List (List (UInt8 × Trie)))
deriving Repr, Inhabited

namespace Trie

/-- The trie without texts. -/
def empty : Trie := .node [[]]

/-- The groups of branches of a place. -/
def groups : Trie → List (List (UInt8 × Trie))
  | .node gs => gs

/-- No text goes on here. -/
def isLeaf (t : Trie) : Bool := t.groups.all List.isEmpty

/-- Puts a branch among others, in place of one with the same byte. -/
def putBranch (b : UInt8) (t : Trie) : List (UInt8 × Trie) → List (UInt8 × Trie)
  | [] => [(b, t)]
  | (c, u) :: branches =>
    if c = b then (b, t) :: branches else (c, u) :: putBranch b t branches

/-- Adds a text. A text that ends twice where no text goes on ends there once. -/
def insert : List UInt8 → Trie → Trie
  | [], t => if t.isLeaf ∧ 1 < t.groups.length then t else .node ([] :: t.groups)
  | b :: bs, t =>
    match t.groups with
    | [] => .node [[(b, insert bs empty)]]
    | opened :: closed =>
      .node (putBranch b (insert bs ((opened.lookup b).getD empty)) opened :: closed)

/-- The trie of texts. -/
def ofList (texts : List (List UInt8)) : Trie := texts.foldl (fun t s => t.insert s) empty

end Trie

end FunctionHost.Pattern
