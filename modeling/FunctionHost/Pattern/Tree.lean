import FunctionHost.Text.Pieces
/-!
# Patterns as trees

What a pattern says, piece by piece, in the order in which it is written. Settings change how the
pieces after them are understood, up to the end of the group.
-/

namespace FunctionHost.Pattern

/-- Something that can be switched on or off inside a pattern. -/
inductive Switch where
  /-- `i`: case does not matter. -/
  | ignoreCase
  /-- `m`: `^` and `$` stand for the ends of lines. -/
  | multiLine
  /-- `s`: the dot stands for line ends too. -/
  | dotAll
  /-- `U`: repetitions take as little as they can, and with `?` as much. -/
  | swapGreed
  /-- `u`: classes are those of Unicode. -/
  | unicode
  /-- `R`: lines end in carriage return and line feed. -/
  | carriageReturn
  /-- `x`: blanks and comments mean nothing. -/
  | verbose
deriving DecidableEq, Repr

/-- Settings, each a switch with its new position. -/
abbrev Settings := List (Switch × Bool)

/-- A condition on a place between characters. -/
inductive Assertion where
  /-- `^` -/
  | lineStart
  /-- `$` -/
  | lineEnd
  /-- `\A` -/
  | textStart
  /-- `\z` -/
  | textEnd
  /-- `\b` -/
  | wordBoundary
  /-- `\B` -/
  | notWordBoundary
  /-- `\<` -/
  | wordStart
  /-- `\>` -/
  | wordEnd
  /-- No character of a word stands before. -/
  | wordStartHalf
  /-- No character of a word stands after. -/
  | wordEndHalf
deriving DecidableEq, Repr

/-- A character that stands for itself. -/
structure Literal where
  /-- The character. -/
  char : Char
  /-- It is written as two digits of base sixteen, which denote a byte. -/
  asByte : Bool := false
deriving DecidableEq, Repr

/-- A class with a short name. -/
inductive ShortClass where
  /-- `\d` -/
  | digit
  /-- `\s` -/
  | space
  /-- `\w` -/
  | word
deriving DecidableEq, Repr

/-- A property of characters. -/
inductive Query where
  /-- By a name. -/
  | name (s : String)
  /-- By the name of a property and a value of it. -/
  | value (property value : String)
deriving DecidableEq, Repr

/-- A piece without parts. -/
inductive Atom where
  /-- A character. -/
  | literal (l : Literal)
  /-- The dot. -/
  | dot
  /-- A condition on the place. -/
  | assertion (a : Assertion)
  /-- The characters with a property, or those without. -/
  | property (q : Query) (negated : Bool)
  /-- The characters of a class, or all others. -/
  | short (c : ShortClass) (negated : Bool)
deriving DecidableEq, Repr

/-- How two sets are put together. -/
inductive SetOperation where
  /-- `&&` -/
  | inter
  /-- `--` -/
  | diff
  /-- `~~` -/
  | symmDiff
deriving DecidableEq, Repr

/-- What stands in brackets. -/
inductive CharSet where
  /-- Nothing. -/
  | empty
  /-- A character. -/
  | literal (l : Literal)
  /-- The characters from one to another. -/
  | range (first last : Literal)
  /-- An ASCII class by its ranges, or all other characters. -/
  | ascii (ranges : List (Nat × Nat)) (negated : Bool)
  /-- The characters with a property, or those without. -/
  | property (q : Query) (negated : Bool)
  /-- The characters of a class, or all others. -/
  | short (c : ShortClass) (negated : Bool)
  /-- A set in brackets of its own, or all other characters. -/
  | bracketed (s : CharSet) (negated : Bool)
  /-- The characters of several sets. -/
  | union (ss : List CharSet)
  /-- Two sets put together. -/
  | operation (o : SetOperation) (l r : CharSet)
deriving Repr, Inhabited

/-- A pattern. -/
inductive Tree where
  /-- Nothing. -/
  | empty
  /-- Settings for what follows. -/
  | settings (s : Settings)
  /-- A piece without parts. -/
  | atom (a : Atom)
  /-- A set in brackets, or all other characters. -/
  | set (s : CharSet) (negated : Bool)
  /-- A repetition, with the least and the greatest number of times; a lazy one has a mark after
  it. -/
  | times (least : Nat) (most : Option Nat) (lazy : Bool) (t : Tree)
  /-- A group with settings of its own. -/
  | group (captures : Bool) (s : Settings) (t : Tree)
  /-- One pattern after another. -/
  | sequence (ts : List Tree)
  /-- One pattern or another. -/
  | alternatives (ts : List Tree)
deriving Repr, Inhabited

/-! ### Depth -/

mutual

/-- How deep brackets, unions and operations are nested. -/
def CharSet.depth : CharSet → Nat
  | .bracketed s _ => s.depth + 1
  | .union ss => CharSet.depthOf ss + 1
  | .operation _ l r => max l.depth r.depth + 1
  | _ => 0

/-- The greatest depth of several sets. -/
def CharSet.depthOf : List CharSet → Nat
  | [] => 0
  | s :: ss => max s.depth (depthOf ss)

end

mutual

/-- How deep a pattern is nested. -/
def Tree.depth : Tree → Nat
  | .set s _ => s.depth + 1
  | .times _ _ _ t => t.depth + 1
  | .group _ _ t => t.depth + 1
  | .sequence ts => Tree.depthOf ts + 1
  | .alternatives ts => Tree.depthOf ts + 1
  | _ => 0

/-- The greatest depth of several patterns. -/
def Tree.depthOf : List Tree → Nat
  | [] => 0
  | t :: ts => max t.depth (depthOf ts)

end

/-- A sequence, without a level of its own if it has fewer than two pieces. -/
def Tree.ofSequence : List Tree → Tree
  | [] => .empty
  | [t] => t
  | ts => .sequence ts

/-- A union, without a level of its own if it has fewer than two parts. -/
def CharSet.ofUnion : List CharSet → CharSet
  | [] => .empty
  | [s] => s
  | ss => .union ss

end FunctionHost.Pattern
