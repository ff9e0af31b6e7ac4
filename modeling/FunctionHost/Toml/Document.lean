import FunctionHost.Toml.Reader
/-!
# TOML documents

The statements of a document build a table. A table has one header, and the assignments after a
header extend only tables that assignments of the same section made.
-/

namespace FunctionHost.Toml

/-- The items with which the table at a path begins when its header is read. -/
def Items.open? (items : Items) : List String → Option Items
  | [] => none
  | [k] =>
    match items.lookup k with
    | none => some []
    | some (.table .passing inner) => some inner
    | some _ => none
  | k :: ks =>
    match items.lookup k with
    | none => some []
    | some (.table _ inner) => Items.open? inner ks
    | some (.value _) => none

/-- Puts the table of a header at its path. -/
def Items.close (items : Items) (section_ : Items) : List String → Items
  | [] => section_
  | [k] => items.put k (.table .header section_)
  | k :: ks =>
    match items.lookup k with
    | some (.table o inner) => items.put k (.table o (Items.close inner section_ ks))
    | _ => items.put k (.table .passing (Items.close [] section_ ks))

/-- A document under way: the table so far, and the section under way with the path of its
header. -/
structure Progress where
  /-- The table of all sections before. -/
  root : Items := []
  /-- The path of the section. -/
  path : List String := []
  /-- The items of the section. -/
  items : Items := []

/-- The table of all sections. -/
def Progress.whole (p : Progress) : Items := Items.close p.root p.items p.path

/-- Takes a statement. -/
def Progress.take? (p : Progress) : Statement → Option Progress
  | .assign path v => (Items.assign? p.items path v).map fun items => { p with items := items }
  | .header path =>
    let root := p.whole
    (Items.open? root path).map fun items => ⟨root, path, items⟩

/-- The table of a document. -/
def document? (text : List Char) : Option Items := do
  let statements ← readStatements? text
  let p ← statements.foldlM Progress.take? {}
  return p.whole

end FunctionHost.Toml
