import FunctionHost.Toml.Moment
import FunctionHost.Toml.Number
/-!
# Values of a TOML document

A document is a list of statements, and the statements build a table. Arrays of tables are not
admitted: no setting is one, so a document that holds one is refused whatever it says.
-/

namespace FunctionHost.Toml

/-- A value. -/
inductive Value where
  /-- A text. -/
  | text (s : String)
  /-- An integer of 64 bits. -/
  | integer (n : Int)
  /-- A float. -/
  | float (x : Floating)
  /-- A truth value. -/
  | truth (b : Bool)
  /-- A date, a time of day, or both. -/
  | moment (m : Moment)
  /-- An array. -/
  | array (vs : List Value)
  /-- A table in braces. -/
  | table (members : List (String × Value))
deriving Repr, Inhabited

/-- A line of a document that says something. -/
inductive Statement where
  /-- A header; the assignments after it belong to the table at the path. -/
  | header (path : List String)
  /-- An assignment to a path. -/
  | assign (path : List String) (v : Value)
deriving Repr, Inhabited

end FunctionHost.Toml
