import FunctionHost.Toml.Value
/-!
# Tables under construction

A table is built by assignments to paths. A key is assigned once, and a path leads only through
tables that such paths made.
-/

namespace FunctionHost.Toml

/-- How a table came into being. -/
inductive Origin where
  /-- By a header. -/
  | header
  /-- On the way of a header. -/
  | passing
  /-- By a key with dots. -/
  | dotted
deriving DecidableEq, Repr

/-- What stands under a key. -/
inductive Item where
  /-- A value. -/
  | value (v : Value)
  /-- A table. -/
  | table (o : Origin) (items : List (String × Item))
deriving Repr, Inhabited

/-- The items of a table by their keys, in the order in which they were made. -/
abbrev Items := List (String × Item)

/-- Puts an item under a key, in place of what is there. -/
def Items.put (items : Items) (k : String) (i : Item) : Items :=
  if items.any (·.1 == k) then items.map fun (l, j) => (l, if l == k then i else j)
  else items ++ [(k, i)]

/-- Assigns a value to a path in a table. -/
def Items.assign? (items : Items) : List String → Value → Option Items
  | [], _ => none
  | [k], v => if (items.lookup k).isSome then none else some (items.put k (.value v))
  | k :: ks, v =>
    match items.lookup k with
    | none => (Items.assign? [] ks v).map fun inner => items.put k (.table .dotted inner)
    | some (.table .dotted inner) =>
      (Items.assign? inner ks v).map fun inner => items.put k (.table .dotted inner)
    | some _ => none

/-- The table that assignments build. -/
def Items.ofAssignments? (assignments : List (List String × Value)) : Option Items :=
  assignments.foldlM (fun items (path, v) => Items.assign? items path v) []

mutual

/-- An item as a value. -/
def Item.toValue : Item → Value
  | .value v => v
  | .table _ items => .table (Items.members items)

/-- The items of a table as values. -/
def Items.members : List (String × Item) → List (String × Value)
  | [] => []
  | (k, i) :: items => (k, i.toValue) :: Items.members items

end

end FunctionHost.Toml
