import FunctionHost.Pattern.Machine
import FunctionHost.Pattern.Reader
import FunctionHost.Pattern.Size
/-!
# Filters

A filter is a pattern that has been read. It accepts the texts in which the pattern stands
somewhere.
-/

namespace FunctionHost

open FunctionHost.Pattern

/-- A pattern that has been read. -/
structure Filter where
  /-- The pattern as written. -/
  text : String
  /-- The automaton that searches for it. -/
  automaton : Automaton
deriving Repr

/-- Reads a pattern. It is refused if it is not written as a pattern should be, or if it is too
large. -/
def Filter.read? (text : String) : Option Filter := do
  let tree ← Tree.read? text.toList
  let (term, _) ← tree.term? {}
  if term.fits then some ⟨text, .ofTerm term⟩ else none

/-- The pattern stands somewhere in a text. -/
def Filter.accepts (f : Filter) (text : String) : Bool := f.automaton.search text.toList

end FunctionHost
