import FunctionHost.Pattern.Tree
import FunctionHost.Unicode.Age
import FunctionHost.Unicode.Folding
import FunctionHost.Unicode.Segment
/-!
# What patterns match

A term says what a pattern matches when its settings have been applied: characters, sets of them,
conditions on a place, repetitions, sequences and alternatives. `Tree.term?` applies the settings.
Without the switch `u`, sets may only hold ASCII, since nothing but whole characters is matched.

Terms are kept short: a sequence holds neither sequences nor two neighbouring texts, alternatives
that are all characters or all sets are one set, and what all alternatives begin with stands before
them.
-/

namespace FunctionHost.Pattern

open FunctionHost.Unicode

/-- Conditions on the characters of words before and after a place. -/
inductive WordLook where
  /-- One of them stands on one side only. -/
  | boundary
  /-- They stand on both sides or on none. -/
  | notBoundary
  /-- One stands after, and none before. -/
  | start
  /-- One stands before, and none after. -/
  | stop
  /-- None stands before. -/
  | startHalf
  /-- None stands after. -/
  | stopHalf
deriving DecidableEq, Repr

/-- Conditions on a place. -/
inductive Look where
  /-- The text starts here. -/
  | textStart
  /-- The text ends here. -/
  | textEnd
  /-- A line starts here; lines end in a line feed. -/
  | lineStart
  /-- A line ends here; lines end in a line feed. -/
  | lineEnd
  /-- A line starts here; lines end in a carriage return, a line feed or both. -/
  | lineStartReturn
  /-- A line ends here; lines end in a carriage return, a line feed or both. -/
  | lineEndReturn
  /-- A condition on words, which are those of Unicode or of ASCII. -/
  | word (w : WordLook) (unicode : Bool)
deriving DecidableEq, Repr

/-- What a pattern matches. -/
inductive Term where
  /-- The empty text. -/
  | empty
  /-- Characters one after another, at least one. -/
  | literal (cs : List Char)
  /-- A character of a set. -/
  | set (r : Ranges)
  /-- The empty text at certain places. -/
  | look (l : Look)
  /-- A repetition, which takes as much as it can or as little. -/
  | times (least : Nat) (most : Option Nat) (greedy : Bool) (t : Term)
  /-- What a capturing group matches. -/
  | capture (t : Term)
  /-- One after another. -/
  | sequence (ts : List Term)
  /-- One or another. -/
  | alternatives (ts : List Term)
deriving Repr, Inhabited

/-- The positions of the switches that matter for what is matched. -/
structure Switches where
  /-- `i` -/
  ignoreCase : Bool := false
  /-- `m` -/
  multiLine : Bool := false
  /-- `s` -/
  dotAll : Bool := false
  /-- `U` -/
  swapGreed : Bool := false
  /-- `u` -/
  unicode : Bool := true
  /-- `R` -/
  carriageReturn : Bool := false
deriving DecidableEq, Repr

/-- Puts one switch. -/
def Switches.put (s : Switches) : Switch × Bool → Switches
  | (.ignoreCase, b) => { s with ignoreCase := b }
  | (.multiLine, b) => { s with multiLine := b }
  | (.dotAll, b) => { s with dotAll := b }
  | (.unicode, b) => { s with unicode := b }
  | (.carriageReturn, b) => { s with carriageReturn := b }
  | (.swapGreed, b) => { s with swapGreed := b }
  | (.verbose, _) => s

/-- Applies settings. No switch stands twice in them. -/
def Switches.apply (s : Switches) (changes : Settings) : Switches := changes.foldl put s

/-! ### Sets -/

/-- Code points that are no characters. -/
def surrogates : Ranges := ⟨[(0xD800, 0xDFFF)]⟩

/-- All other characters. -/
def others (r : Ranges) : Ranges := (r.union surrogates).complement

/-- A set of ASCII with the letters that differ from its members in case. -/
def asciiFolded (r : Ranges) : Ranges :=
  r.union (.ofList ((List.range 26).flatMap fun i =>
    if r.contains (65 + i) || r.contains (97 + i) then [(65 + i, 65 + i), (97 + i, 97 + i)]
    else []))

/-- A set with everything that differs from its members in case, if case does not matter. -/
def Switches.folded (s : Switches) (r : Ranges) : Ranges :=
  if !s.ignoreCase then r else if s.unicode then r.folded else asciiFolded r

/-- A set or all other characters; the latter are not all ASCII. -/
def Switches.negated? (s : Switches) (negated : Bool) (r : Ranges) : Option Ranges :=
  if !negated then some r else if s.unicode then some (others r) else none

/-- The characters of words. -/
def wordChars : Ranges := .unions [
  Property.alphabetic, Category.mark, Category.decimalNumber, Category.connectorPunctuation,
  Property.joinControl]

/-- The ASCII characters of words. -/
def asciiWordChars : Ranges := ⟨[(48, 57), (65, 90), (95, 95), (97, 122)]⟩

/-- The members of a class with a short name. -/
def ShortClass.ranges (unicode : Bool) : ShortClass → Ranges
  | .digit => if unicode then Category.decimalNumber else ⟨[(48, 57)]⟩
  | .space => if unicode then Property.whiteSpace else ⟨[(9, 13), (32, 32)]⟩
  | .word => if unicode then wordChars else asciiWordChars

/-- The characters with a property, by its name alone. Three abbreviations that also name other
properties are those of categories. -/
def rangesNamed? (name : String) : Option Ranges :=
  let name := plainName name
  let asProperty := if name = "cf" ∨ name = "sc" ∨ name = "lc" then none else property? name
  (asProperty.or (category? name)).or (script? name)

/-- The properties with values. -/
def valuedProperties : List (List String × (String → Option Ranges)) := [
  (["gc", "generalcategory"], category?), (["sc", "script"], script?),
  (["scx", "scriptextensions"], scriptExtension?), (["age"], age?),
  (["gcb", "graphemeclusterbreak"], graphemeBreak?), (["wb", "wordbreak"], wordBreak?),
  (["sb", "sentencebreak"], sentenceBreak?)]

/-- The characters with a property. -/
def Query.ranges? : Query → Option Ranges
  | .name s => rangesNamed? s
  | .value p v => do
    let values ← named? (plainName p) valuedProperties
    values (plainName v)

/-- The characters with a property or without it, as the switches say. -/
def Query.set? (q : Query) (s : Switches) (negated : Bool) : Option Ranges :=
  if s.unicode then do s.negated? negated (s.folded (← q.ranges?)) else none

/-- A character inside brackets. -/
def Literal.point? (l : Literal) (s : Switches) : Option Nat :=
  if s.unicode || l.char.toNat < 128 then some l.char.toNat else none

/-- Puts two sets together. -/
def SetOperation.apply : SetOperation → Ranges → Ranges → Ranges
  | .inter, l, r => l.inter r
  | .diff, l, r => l.diff r
  | .symmDiff, l, r => l.symmDiff r

mutual

/-- The members of a set in brackets, as the switches say. Case is disregarded before a set is
negated and before sets are put together. -/
def CharSet.ranges? (s : Switches) : CharSet → Option Ranges
  | .empty => some .empty
  | .literal l => (l.point? s).map .single
  | .range a b => do return ⟨[(← a.point? s, ← b.point? s)]⟩
  | .ascii r negated => s.negated? negated (s.folded ⟨r⟩)
  | .property q negated => q.set? s negated
  | .short c negated => s.negated? negated (c.ranges s.unicode)
  | .bracketed c negated => do s.negated? negated (s.folded (← c.ranges? s))
  | .union cs => (CharSet.rangesOf? s cs).map .unions
  | .operation o l r => do
    let l ← l.ranges? s
    let r ← r.ranges? s
    return o.apply (s.folded l) (s.folded r)

/-- The members of several sets. -/
def CharSet.rangesOf? (s : Switches) : List CharSet → Option (List Ranges)
  | [] => some []
  | c :: cs => do return (← c.ranges? s) :: (← rangesOf? s cs)

end

/-! ### Terms -/

/-- A set; one with a single member is a character. -/
def Term.ofRanges (r : Ranges) : Term :=
  match r.list with
  | [(a, b)] => if a = b then .literal [Char.ofNat a] else .set r
  | _ => .set r

/-- A character, with those that differ from it in case if case does not matter. -/
def Literal.term? (l : Literal) (s : Switches) : Option Term :=
  if !s.unicode && l.asByte && 128 ≤ l.char.toNat then none
  else if s.unicode || l.char.toNat < 128 then
    some (.ofRanges (s.folded (.single l.char.toNat)))
  else some (.literal [l.char])

/-- The dot: any character but those that end lines. -/
def dotTerm? (s : Switches) : Option Term :=
  if !s.unicode then none
  else if s.dotAll then some (.set (others .empty))
  else if s.carriageReturn then some (.set (others ⟨[(10, 10), (13, 13)]⟩))
  else some (.set (others (.single 10)))

/-- A condition on a place. -/
def Assertion.look (s : Switches) : Assertion → Look
  | .lineStart =>
    if !s.multiLine then .textStart else if s.carriageReturn then .lineStartReturn else .lineStart
  | .lineEnd =>
    if !s.multiLine then .textEnd else if s.carriageReturn then .lineEndReturn else .lineEnd
  | .textStart => .textStart
  | .textEnd => .textEnd
  | .wordBoundary => .word .boundary s.unicode
  | .notWordBoundary => .word .notBoundary s.unicode
  | .wordStart => .word .start s.unicode
  | .wordEnd => .word .stop s.unicode
  | .wordStartHalf => .word .startHalf s.unicode
  | .wordEndHalf => .word .stopHalf s.unicode

/-- What an atom matches. -/
def Atom.term? (s : Switches) : Atom → Option Term
  | .literal l => l.term? s
  | .dot => dotTerm? s
  | .assertion a => some (.look (a.look s))
  | .property q negated => (q.set? s negated).map .ofRanges
  | .short c negated => (s.negated? negated (c.ranges s.unicode)).map .ofRanges

mutual

/-- Only the empty text can be matched. -/
def Term.isBlank : Term → Bool
  | .empty => true
  | .look _ => true
  | .literal _ => false
  | .set _ => false
  | .times _ _ _ t => t.isBlank
  | .capture t => t.isBlank
  | .sequence ts => Term.areBlank ts
  | .alternatives ts => Term.areBlank ts

/-- Only the empty text can be matched by any of them. -/
def Term.areBlank : List Term → Bool
  | [] => true
  | t :: ts => t.isBlank && areBlank ts

end

/-- A repetition. What only matches the empty text is repeated once at most. -/
def Term.repeated (least : Nat) (most : Option Nat) (greedy : Bool) (t : Term) : Term :=
  let least := if t.isBlank then min least 1 else least
  let most := if t.isBlank then some (min (most.getD 1) 1) else most
  if most = some 0 then .empty
  else if least = 1 ∧ most = some 1 then t
  else .times least most greedy t

/-! ### Sequences -/

/-- The parts of a term in a sequence. -/
def Term.parts : Term → List Term
  | .empty => []
  | .sequence ts => ts
  | t => [t]

/-- Joins texts that stand side by side. -/
def joinLiterals : List Term → List Term
  | [] => []
  | .literal cs :: ts =>
    match joinLiterals ts with
    | .literal ds :: rest => .literal (cs ++ ds) :: rest
    | rest => .literal cs :: rest
  | t :: ts => t :: joinLiterals ts

/-- One term after another. -/
def Term.ofSequence (ts : List Term) : Term :=
  match joinLiterals (ts.flatMap parts) with
  | [] => .empty
  | [t] => t
  | ts => .sequence ts

/-! ### Alternatives -/

/-- The alternatives that a term is. -/
def Term.options : Term → List Term
  | .alternatives ts => ts
  | t => [t]

/-- The characters that terms are, if each is one. -/
def singles? : List Term → Option (List Nat)
  | [] => some []
  | .literal [c] :: ts => (singles? ts).map (c.toNat :: ·)
  | _ :: _ => none

/-- The sets that terms are, if each is one. -/
def sets? : List Term → Option (List Ranges)
  | [] => some []
  | .set r :: ts => (sets? ts).map (r :: ·)
  | _ :: _ => none

/-- The set that alternatives are together, if they are all characters or all sets. -/
def mergedSet? (ts : List Term) : Option Ranges :=
  match singles? ts with
  | some ns => some (.ofList (ns.map fun n => (n, n)))
  | none => (sets? ts).map .unions

/-- One term or another. -/
def Term.ofOptions (ts : List Term) : Term :=
  match ts.flatMap options with
  | [] => .set .empty
  | [t] => t
  | ts =>
    match mergedSet? ts with
    | some r => .ofRanges r
    | none => .alternatives ts

mutual

/-- Two terms are built alike. No two capturing groups are. -/
def Term.same : Term → Term → Bool
  | .empty, .empty => true
  | .literal cs, .literal ds => cs == ds
  | .set r, .set s => r == s
  | .look l, .look m => l == m
  | .times least most greedy t, .times least' most' greedy' u =>
    least == least' && most == most' && greedy == greedy' && t.same u
  | .sequence ts, .sequence us => Term.allSame ts us
  | .alternatives ts, .alternatives us => Term.allSame ts us
  | _, _ => false

/-- Two lists of terms are built alike. -/
def Term.allSame : List Term → List Term → Bool
  | [], [] => true
  | t :: ts, u :: us => t.same u && allSame ts us
  | _, _ => false

end

/-- How many terms two lists have in common at their beginnings. -/
def sharedLength : List Term → List Term → Nat
  | t :: ts, u :: us => if t.same u then sharedLength ts us + 1 else 0
  | _, _ => 0

/-- The sequences that terms are, if each is one. -/
def sequences? : List Term → Option (List (List Term))
  | [] => some []
  | .sequence ts :: us => (sequences? us).map (ts :: ·)
  | _ :: _ => none

/-- One term or another, with what all of them begin with in front. -/
def Term.ofAlternatives (ts : List Term) : Term :=
  match Term.ofOptions ts with
  | .alternatives us =>
    match sequences? us with
    | some (first :: others) =>
      let shared := others.foldl (fun n ts => min n (sharedLength first ts)) first.length
      if shared = 0 then .alternatives us
      else .ofSequence (first.take shared ++
        [.ofOptions ((first :: others).map fun ts => .ofSequence (ts.drop shared))])
    | _ => .alternatives us
  | t => t

/-! ### Terms of trees -/

mutual

/-- What a tree matches, with the switches as they stand after it. -/
def Tree.term? (s : Switches) : Tree → Option (Term × Switches)
  | .empty => some (.empty, s)
  | .settings changes => some (.empty, s.apply changes)
  | .atom a => (a.term? s).map fun t => (t, s)
  | .set c negated => do
    let r ← s.negated? negated (s.folded (← c.ranges? s))
    return (.ofRanges r, s)
  | .times least most lazy t => do
    let (t, s) ← t.term? s
    return (.repeated least most (lazy == s.swapGreed) t, s)
  | .group captures changes t => do
    let (t, _) ← t.term? (s.apply changes)
    return (if captures then .capture t else t, s)
  | .sequence ts => do
    let (ts, s) ← Tree.terms? s ts
    return (.ofSequence ts, s)
  | .alternatives ts => do
    let (ts, s) ← Tree.terms? s ts
    return (.ofAlternatives ts, s)

/-- What several trees match; each is understood with the switches as they stand after the one
before. -/
def Tree.terms? (s : Switches) : List Tree → Option (List Term × Switches)
  | [] => some ([], s)
  | t :: ts => do
    let (t, s) ← t.term? s
    let (ts, s) ← terms? s ts
    return (t :: ts, s)

end

end FunctionHost.Pattern
