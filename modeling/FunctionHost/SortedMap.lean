/-!
# Sorted maps

Maps from texts, kept in ascending order of their keys and without repetition.
-/

namespace FunctionHost

/-- A map in ascending order of its keys. The order of texts by code points is the order of their
UTF-8 bytes. -/
abbrev SortedMap (α : Type) := List (String × α)

namespace SortedMap

/-- Changes the value of a key, which is absent at first. -/
def alter {α : Type} (key : String) (f : Option α → α) : SortedMap α → SortedMap α
  | [] => [(key, f none)]
  | (k, v) :: m =>
    if key = k then (k, f (some v)) :: m
    else if key < k then (key, f none) :: (k, v) :: m
    else (k, v) :: alter key f m

/-- Sets the value of a key; the last one set counts. -/
def insert {α : Type} (key : String) (v : α) (m : SortedMap α) : SortedMap α :=
  alter key (fun _ => v) m

/-- The map of a list of pairs, in which a later pair replaces an earlier one. -/
def ofList {α : Type} (ps : List (String × α)) : SortedMap α :=
  ps.foldl (fun m p => insert p.1 p.2 m) []

/-- The values of each key, in the order in which they occur. -/
def group (ps : List (String × String)) : SortedMap (List String) :=
  ps.foldl (fun m p => alter p.1 (fun vs => vs.getD [] ++ [p.2]) m) []

end SortedMap

end FunctionHost
