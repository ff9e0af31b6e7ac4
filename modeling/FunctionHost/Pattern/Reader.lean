import FunctionHost.Pattern.Tree
import FunctionHost.Text.Blank
import FunctionHost.Text.Digits
import FunctionHost.Unicode.Newer
/-!
# Reading patterns

`Tree.read?` reads a pattern, or refuses it. Every function here takes a text and gives what it has
read together with the rest of the text. In a verbose pattern blanks and comments may stand almost
anywhere; the functions that leave them out are told so by their argument `v`.
-/

namespace FunctionHost.Pattern

open FunctionHost.Text

/-! ### Blanks -/

/-- Drops blanks, and comments from a number sign to the end of the line. -/
def skipBlanks (inComment : Bool) : List Char → List Char
  | [] => []
  | c :: cs =>
    if inComment then skipBlanks (c != '\n') cs
    else if isBlank c then skipBlanks false cs
    else if c = '#' then skipBlanks true cs
    else c :: cs

/-- Drops what means nothing in a verbose pattern. -/
def skip (v : Bool) (cs : List Char) : List Char := if v then skipBlanks false cs else cs

theorem length_skipBlanks_le (b : Bool) (cs : List Char) :
    (skipBlanks b cs).length ≤ cs.length := by
  induction cs generalizing b with
  | nil => simp [skipBlanks]
  | cons c cs ih =>
    rw [skipBlanks]
    split
    · exact Nat.le_succ_of_le (ih _)
    · split
      · exact Nat.le_succ_of_le (ih _)
      · split
        · exact Nat.le_succ_of_le (ih _)
        · exact Nat.le_refl _

theorem length_skip_lt (v : Bool) (c : Char) (cs : List Char) :
    (skip v cs).length < (c :: cs).length := by
  unfold skip
  split
  · exact Nat.lt_succ_of_le (length_skipBlanks_le _ _)
  · exact Nat.lt_succ_self _

/-- Drops what means nothing; something has to follow. -/
def skipOn? (v : Bool) (cs : List Char) : Option (List Char) :=
  match skip v cs with
  | [] => none
  | cs => some cs

/-- The next character that is no blank; a number sign is passed over once. -/
def peekBeyond (passed : Bool) : List Char → Option Char
  | [] => none
  | c :: cs =>
    if isBlank c then peekBeyond passed cs
    else if c = '#' ∧ !passed then peekBeyond true cs
    else some c

/-- The next character that means something. -/
def peek (v : Bool) (cs : List Char) : Option Char :=
  if v then (peekBeyond false cs).or cs.head? else cs.head?

/-! ### Numbers -/

/-- The greatest number of times. -/
def maxCount : Nat := 4294967295

/-- Reads digits, which go on a number. -/
def readDigits (v : Bool) (n : Nat) : List Char → Nat × List Char
  | [] => (n, [])
  | c :: cs =>
    match digitValue? 10 c with
    | some d => readDigits v (n * 10 + d) (skip v cs)
    | none => (n, c :: cs)
termination_by cs => cs.length
decreasing_by exact length_skip_lt v c cs

/-- Reads a number with blanks around it. -/
def readCount? (v : Bool) (cs : List Char) : Option (Nat × List Char) :=
  match cs.dropWhile isBlank with
  | [] => none
  | c :: cs =>
    if (digitValue? 10 c).isSome then
      let (n, rest) := readDigits v 0 (c :: cs)
      if n ≤ maxCount then some (n, rest.dropWhile isBlank) else none
    else none

/-- Reads how often something is repeated, up to the closing brace. -/
def readBounds? (v : Bool) (cs : List Char) : Option ((Nat × Option Nat) × List Char) := do
  let cs ← skipOn? v cs
  let (least, cs) ← readCount? v cs
  match cs with
  | '\x7d' :: cs => return ((least, some least), cs)
  | ',' :: cs =>
    let cs ← skipOn? v cs
    match cs with
    | '\x7d' :: cs => return ((least, none), cs)
    | cs =>
      let (most, cs) ← readCount? v cs
      match cs with
      | '\x7d' :: cs => if least ≤ most then some ((least, some most), cs) else none
      | _ => none
  | _ => none

/-- The character with a number. -/
def charOf? (n : Nat) : Option Char := if n.isValidChar then some (Char.ofNat n) else none

/-- Reads so many digits of base sixteen. -/
def readHex? (v : Bool) : Nat → Nat → List Char → Option (Nat × List Char)
  | 0, n, cs => some (n, cs)
  | _ + 1, _, [] => none
  | k + 1, n, c :: cs =>
    match digitValue? 16 c with
    | some d => readHex? v k (n * 16 + d) (skip v cs)
    | none => none

/-- Reads digits of base sixteen up to the closing brace. -/
def readHexBraced? (v : Bool) (n : Option Nat) : List Char → Option (Nat × List Char)
  | [] => none
  | c :: cs =>
    if c = '\x7d' then n.map fun n => (n, skip v cs)
    else
      match digitValue? 16 c with
      | some d => readHexBraced? v (some (n.getD 0 * 16 + d)) (skip v cs)
      | none => none
termination_by cs => cs.length
decreasing_by exact length_skip_lt v c cs

/-- Reads the number of a character, of the given length or in braces. -/
def readNumbered? (v : Bool) (length : Nat) (cs : List Char) : Option (Literal × List Char) := do
  let cs ← skipOn? v cs
  match cs with
  | '\x7b' :: cs =>
    let (n, cs) ← readHexBraced? v none (skip v cs)
    return (⟨← charOf? n, false⟩, cs)
  | cs =>
    let (n, cs) ← readHex? v length 0 cs
    return (⟨← charOf? n, length == 2⟩, cs)

/-! ### Atoms -/

/-- Collects characters up to the closing brace. -/
def collectBraced? (v : Bool) (collected : List Char) :
    List Char → Option (List Char × List Char)
  | [] => none
  | c :: cs =>
    if c = '\x7d' then some (collected.reverse, cs)
    else collectBraced? v (c :: collected) (skip v cs)
termination_by cs => cs.length
decreasing_by exact length_skip_lt v c cs

/-- The parts before and after the first place where a text stands. -/
def cutAtText? (part : List Char) : List Char → Option (List Char × List Char)
  | [] => none
  | c :: cs =>
    match after? part (c :: cs) with
    | some rest => some ([], rest)
    | none => (cutAtText? part cs).map fun (l, r) => (c :: l, r)

/-- The property that a text in braces names, and whether all other characters are meant: `!=`
denies the value after it. -/
def queryOf (s : List Char) : Query × Bool :=
  match cutAtText? ['!', '='] s, (cutAt? ':' s).or (cutAt? '=' s) with
  | some (property, value), _ => (.value (String.ofList property) (String.ofList value), true)
  | none, some (property, value) =>
    (.value (String.ofList property) (String.ofList value), false)
  | none, none => (.name (String.ofList s), false)

/-- Reads a property, and whether all other characters are meant. -/
def readProperty? (v : Bool) (cs : List Char) : Option ((Query × Bool) × List Char) := do
  let cs ← skipOn? v cs
  match cs with
  | '\x7b' :: cs =>
    let (s, cs) ← collectBraced? v [] (skip v cs)
    return (queryOf s, cs)
  | '\\' :: _ => none
  | c :: cs => return ((.name (String.ofList [c]), false), skip v cs)
  | [] => none

/-- A character of the name of a word boundary. -/
def isBoundaryChar (c : Char) : Bool := c.isAlpha || c == '-'

/-- Collects the name of a word boundary up to the closing brace. -/
def collectBoundary? (v : Bool) (collected : List Char) :
    List Char → Option (List Char × List Char)
  | [] => none
  | c :: cs =>
    if isBoundaryChar c then collectBoundary? v (c :: collected) (skip v cs)
    else if c = '\x7d' then some (collected.reverse, cs)
    else none
termination_by cs => cs.length
decreasing_by exact length_skip_lt v c cs

/-- The names of word boundaries. -/
def boundaries : List (List Char × Assertion) := [
  ("start".toList, .wordStart), ("end".toList, .wordEnd),
  ("start-half".toList, .wordStartHalf), ("end-half".toList, .wordEndHalf)]

/-- Reads what may follow `\b`: the name of a special boundary in braces. Braces that hold something
else are left to be read as a repetition. -/
def readBoundary? (v : Bool) (cs : List Char) : Option (Assertion × List Char) :=
  match cs with
  | '\x7b' :: rest => do
    let inner ← skipOn? v rest
    if inner.head?.any isBoundaryChar then
      let (name, rest) ← collectBoundary? v [] inner
      return (← boundaries.lookup name, rest)
    else return (.wordBoundary, cs)
  | _ => some (.wordBoundary, cs)

/-- What stands for itself after a backslash: ASCII but letters, digits and angle brackets. -/
def isEscapable (c : Char) : Bool :=
  c.toNat < 128 && !c.isAlphanum && c != '<' && c != '>'

/-- The characters with a letter of their own after a backslash. -/
def controlLetters : List (Char × Char) := [
  ('a', '\x07'), ('f', '\x0c'), ('t', '\t'), ('n', '\n'), ('r', '\r'), ('v', '\x0b')]

/-- The conditions with a letter of their own after a backslash. -/
def assertionLetters : List (Char × Assertion) := [
  ('A', .textStart), ('z', .textEnd), ('B', .notWordBoundary), ('<', .wordStart), ('>', .wordEnd)]

/-- The classes with a letter of their own after a backslash. -/
def classLetters : List (Char × ShortClass × Bool) := [
  ('d', .digit, false), ('D', .digit, true), ('s', .space, false), ('S', .space, true),
  ('w', .word, false), ('W', .word, true)]

/-- Reads what follows a backslash. -/
def readEscape? (v : Bool) : List Char → Option (Atom × List Char)
  | [] => none
  | c :: cs =>
    if c = 'x' ∨ c = 'u' ∨ c = 'U' then
      (readNumbered? v (if c = 'x' then 2 else if c = 'u' then 4 else 8) cs).map fun (l, cs) =>
        (.literal l, cs)
    else if c = 'p' ∨ c = 'P' then
      (readProperty? v cs).map fun ((q, other), cs) => (.property q ((c == 'P') != other), cs)
    else if c = 'b' then
      (readBoundary? v cs).map fun (a, cs) => (.assertion a, cs)
    else if isEscapable c then some (.literal ⟨c, false⟩, cs)
    else
      match classLetters.lookup c, controlLetters.lookup c, assertionLetters.lookup c with
      | some (k, negated), _, _ => some (.short k negated, cs)
      | none, some d, _ => some (.literal ⟨d, false⟩, cs)
      | none, none, some a => some (.assertion a, cs)
      | none, none, none => none

/-! ### Sets in brackets -/

/-- The ASCII classes. -/
def asciiClasses : List (String × List (Nat × Nat)) := [
  ("alnum", [(48, 57), (65, 90), (97, 122)]), ("alpha", [(65, 90), (97, 122)]),
  ("ascii", [(0, 127)]), ("blank", [(9, 9), (32, 32)]), ("cntrl", [(0, 31), (127, 127)]),
  ("digit", [(48, 57)]), ("graph", [(33, 126)]), ("lower", [(97, 122)]), ("print", [(32, 126)]),
  ("punct", [(33, 47), (58, 64), (91, 96), (123, 126)]), ("space", [(9, 13), (32, 32)]),
  ("upper", [(65, 90)]), ("word", [(48, 57), (65, 90), (95, 95), (97, 122)]),
  ("xdigit", [(48, 57), (65, 70), (97, 102)])]

/-- Reads the name of an ASCII class after its opening bracket. -/
def readAscii? : List Char → Option (CharSet × List Char)
  | ':' :: cs =>
    let (negated, cs) := match cs with
      | '^' :: cs => (true, cs)
      | cs => (false, cs)
    let (name, rest) := cs.span (· != ':')
    match rest with
    | ':' :: ']' :: rest =>
      (asciiClasses.lookup (String.ofList name)).map fun r => (.ascii r negated, rest)
    | _ => none
  | _ => none

/-- What an atom is inside brackets. -/
def CharSet.ofAtom? : Atom → Option CharSet
  | .literal l => some (.literal l)
  | .property q negated => some (.property q negated)
  | .short c negated => some (.short c negated)
  | _ => none

/-- Reads a character or an escape inside brackets. -/
def readSetAtom? (v : Bool) : List Char → Option (Atom × List Char)
  | [] => none
  | '\\' :: cs => readEscape? v cs
  | c :: cs => some (.literal ⟨c, false⟩, cs)

/-- Reads a member or a range inside brackets. A hyphen before the closing bracket or before another
hyphen makes no range. -/
def readMember? (v : Bool) (cs : List Char) : Option (CharSet × List Char) := do
  let (a, cs) ← readSetAtom? v cs
  let cs ← skipOn? v cs
  match cs with
  | '-' :: rest =>
    if peek v rest = some ']' ∨ peek v rest = some '-' then return (← CharSet.ofAtom? a, cs)
    else
      let rest ← skipOn? v rest
      let (b, rest) ← readSetAtom? v rest
      match a, b with
      | .literal a, .literal b => if a.char ≤ b.char then some (.range a b, rest) else none
      | _, _ => none
  | cs => return (← CharSet.ofAtom? a, cs)

/-- Reads the hyphens with which a set may begin. -/
def readHyphens? (v : Bool) (items : List CharSet) :
    List Char → Option (List CharSet × List Char)
  | [] => none
  | c :: cs =>
    if c = '-' then readHyphens? v (.literal ⟨'-', false⟩ :: items) (skip v cs)
    else some (items, c :: cs)
termination_by cs => cs.length
decreasing_by exact length_skip_lt v c cs

/-- The beginning of a set. -/
structure SetOpening where
  /-- All other characters are meant. -/
  negated : Bool
  /-- The members read, the last first. -/
  items : List CharSet

/-- Reads the beginning of a set after its opening bracket. A closing bracket that comes first is a
member. -/
def readSetOpening? (v : Bool) (cs : List Char) : Option (SetOpening × List Char) := do
  let cs ← skipOn? v cs
  let (negated, cs) ← match cs with
    | '^' :: cs => (skipOn? v cs).map fun cs => (true, cs)
    | cs => some (false, cs)
  let (items, cs) ← readHyphens? v [] cs
  match items, cs with
  | [], ']' :: cs =>
    let cs ← skipOn? v cs
    return (⟨negated, [.literal ⟨']', false⟩]⟩, cs)
  | items, cs => return (⟨negated, items⟩, cs)

/-- Something begun inside brackets. -/
inductive SetFrame where
  /-- A set; outside of it stand these members, the last first. -/
  | opened (outside : List CharSet) (negated : Bool)
  /-- An operation whose left side is complete. -/
  | operation (o : SetOperation) (l : CharSet)

/-- Completes the operation under way. -/
def closeOperation (s : CharSet) : List SetFrame → CharSet × List SetFrame
  | .operation o l :: frames => (.operation o l s, frames)
  | frames => (s, frames)

/-- The operation that two characters stand for. -/
def setOperation? : List Char → Option (SetOperation × List Char)
  | '&' :: '&' :: cs => some (.inter, cs)
  | '-' :: '-' :: cs => some (.diff, cs)
  | '~' :: '~' :: cs => some (.symmDiff, cs)
  | _ => none

/-- Reads a set from its opening bracket on, in so many steps at most. -/
def readSet? (v : Bool) : Nat → List SetFrame → List CharSet → List Char →
    Option ((CharSet × Bool) × List Char)
  | 0, _, _, _ => none
  | steps + 1, frames, items, cs => do
    match skip v cs with
    | [] => none
    | '[' :: cs =>
      match if frames.isEmpty then none else readAscii? cs with
      | some (item, cs) => readSet? v steps frames (item :: items) cs
      | none =>
        let (o, cs) ← readSetOpening? v cs
        readSet? v steps (.opened items o.negated :: frames) o.items cs
    | ']' :: cs =>
      match closeOperation (.ofUnion items.reverse) frames with
      | (s, [.opened _ negated]) => some ((s, negated), cs)
      | (s, .opened outside negated :: frames) =>
        readSet? v steps frames (.bracketed s negated :: outside) cs
      | _ => none
    | cs =>
      match setOperation? cs with
      | some (o, cs) =>
        let (l, frames) := closeOperation (.ofUnion items.reverse) frames
        readSet? v steps (.operation o l :: frames) [] cs
      | none =>
        let (item, cs) ← readMember? v cs
        readSet? v steps frames (item :: items) cs

/-! ### Groups -/

/-- The letters of the switches. -/
def switchLetters : List (Char × Switch) := [
  ('i', .ignoreCase), ('m', .multiLine), ('s', .dotAll), ('U', .swapGreed), ('u', .unicode),
  ('R', .carriageReturn), ('x', .verbose)]

/-- Reads switches up to a colon or a closing parenthesis, which is given too. No switch and no
hyphen stands twice, and a hyphen is not the last. -/
def readSwitches? (seen : List (Option Switch)) :
    List Char → Option (List (Option Switch) × Char × List Char)
  | [] => none
  | c :: cs =>
    if c = ':' ∨ c = ')' then
      if seen.head? = some none then none else some (seen.reverse, c, cs)
    else do
      let item ← if c = '-' then some none else (switchLetters.lookup c).map some
      if seen.contains item then none else readSwitches? (item :: seen) cs

/-- The settings of switches; those after the hyphen are switched off. -/
def settingsOf (on : Bool) : List (Option Switch) → Settings
  | [] => []
  | none :: items => settingsOf false items
  | some s :: items => (s, on) :: settingsOf on items

/-- A character of a name. -/
def isNameChar (first : Bool) (c : Char) : Bool :=
  if first then c == '_' || Unicode.Newer.alphabetic.contains c.toNat
  else c == '_' || c == '.' || c == '[' || c == ']' || Unicode.Newer.alphanumeric.contains c.toNat

/-- Reads a name up to the closing angle bracket. -/
def readName? (cs : List Char) : Option (List Char × List Char) :=
  let (name, rest) := cs.span (· != '>')
  match name, rest with
  | c :: cs, _ :: rest =>
    if isNameChar true c && cs.all (isNameChar false) then some (c :: cs, rest) else none
  | _, _ => none

/-- What an opening parenthesis begins. -/
inductive Opening where
  /-- Settings, which are complete. -/
  | settings (s : Settings)
  /-- A group that captures, perhaps under a name. -/
  | capture (name : Option (List Char))
  /-- A group with settings of its own. -/
  | group (s : Settings)

/-- Reads what follows an opening parenthesis. A pattern cannot look ahead or behind. -/
def readOpening? (v : Bool) (cs : List Char) : Option (Opening × List Char) :=
  match skip v cs with
  | '?' :: '=' :: _ => none
  | '?' :: '!' :: _ => none
  | '?' :: '<' :: '=' :: _ => none
  | '?' :: '<' :: '!' :: _ => none
  | '?' :: 'P' :: '<' :: cs => (readName? cs).map fun (name, cs) => (.capture (some name), cs)
  | '?' :: '<' :: cs => (readName? cs).map fun (name, cs) => (.capture (some name), cs)
  | '?' :: cs => do
    let (items, stop, cs) ← readSwitches? [] cs
    if stop = ':' then return (.group (settingsOf true items), cs)
    else if items.isEmpty then none
    else return (.settings (settingsOf true items), cs)
  | cs => some (.capture none, cs)

/-- Something begun in parentheses, with what stands before it. -/
structure Frame where
  /-- The group captures. -/
  captures : Bool
  /-- Its settings. -/
  settings : Settings
  /-- The pattern around it is verbose. -/
  verbose : Bool
  /-- The alternatives before it, the last first. -/
  alternatives : List Tree
  /-- The pieces before it, the last first. -/
  pieces : List Tree

/-- A pattern under way. -/
structure Progress where
  /-- Blanks and comments mean nothing. -/
  verbose : Bool := false
  /-- The names given to groups. -/
  names : List (List Char) := []
  /-- The groups under way, the innermost first. -/
  frames : List Frame := []
  /-- The alternatives that are complete, the last first. -/
  alternatives : List Tree := []
  /-- The pieces of the alternative under way, the last first. -/
  pieces : List Tree := []

namespace Progress

/-- The whole of what is under way. -/
def tree (p : Progress) : Tree :=
  let last := Tree.ofSequence p.pieces.reverse
  if p.alternatives.isEmpty then last else .alternatives (last :: p.alternatives).reverse

/-- Adds a piece. -/
def add (p : Progress) (t : Tree) : Progress := { p with pieces := t :: p.pieces }

/-- Repeats the last piece, which may be no setting. -/
def times? (p : Progress) (least : Nat) (most : Option Nat) (lazy : Bool) : Option Progress :=
  match p.pieces with
  | [] => none
  | .settings _ :: _ => none
  | t :: ts => some { p with pieces := .times least most lazy t :: ts }

/-- Begins a group. -/
def enter (p : Progress) (captures : Bool) (s : Settings) : Progress := { p with
  verbose := (s.lookup .verbose).getD p.verbose
  frames := ⟨captures, s, p.verbose, p.alternatives, p.pieces⟩ :: p.frames
  alternatives := []
  pieces := [] }

/-- Takes what an opening parenthesis begins. No two groups have one name. -/
def open? (p : Progress) : Opening → Option Progress
  | .settings s => some { p.add (.settings s) with verbose := (s.lookup .verbose).getD p.verbose }
  | .group s => some (p.enter false s)
  | .capture none => some (p.enter true [])
  | .capture (some name) =>
    if p.names.contains name then none
    else some { p.enter true [] with names := name :: p.names }

/-- Ends the innermost group. -/
def close? (p : Progress) : Option Progress :=
  match p.frames with
  | [] => none
  | f :: frames => some { p with
      verbose := f.verbose
      frames := frames
      alternatives := f.alternatives
      pieces := .group f.captures f.settings p.tree :: f.pieces }

end Progress

/-- Reads the mark of a lazy repetition, which may be missing. -/
def readLazy : List Char → Bool × List Char
  | '?' :: cs => (true, cs)
  | cs => (false, cs)

/-- Reads pieces to the end of the text, in so many steps at most. -/
def readPieces? : Nat → Progress → List Char → Option Tree
  | 0, _, _ => none
  | steps + 1, p, cs => do
    match skip p.verbose cs with
    | [] => if p.frames.isEmpty then some p.tree else none
    | '(' :: cs =>
      let (o, cs) ← readOpening? p.verbose cs
      readPieces? steps (← p.open? o) cs
    | ')' :: cs => readPieces? steps (← p.close?) cs
    | '|' :: cs => readPieces? steps { p with
        alternatives := .ofSequence p.pieces.reverse :: p.alternatives, pieces := [] } cs
    | '[' :: cs =>
      let ((s, negated), cs) ← readSet? p.verbose (cs.length + 2) [] [] ('[' :: cs)
      readPieces? steps (p.add (.set s negated)) cs
    | '?' :: cs =>
      let (lazy, cs) := readLazy cs
      readPieces? steps (← p.times? 0 (some 1) lazy) cs
    | '*' :: cs =>
      let (lazy, cs) := readLazy cs
      readPieces? steps (← p.times? 0 none lazy) cs
    | '+' :: cs =>
      let (lazy, cs) := readLazy cs
      readPieces? steps (← p.times? 1 none lazy) cs
    | '\x7b' :: cs =>
      let ((least, most), cs) ← readBounds? p.verbose cs
      let (lazy, cs) := readLazy (skip p.verbose cs)
      readPieces? steps (← p.times? least most lazy) cs
    | '\\' :: cs =>
      let (a, cs) ← readEscape? p.verbose cs
      readPieces? steps (p.add (.atom a)) cs
    | '.' :: cs => readPieces? steps (p.add (.atom .dot)) cs
    | '^' :: cs => readPieces? steps (p.add (.atom (.assertion .lineStart))) cs
    | '$' :: cs => readPieces? steps (p.add (.atom (.assertion .lineEnd))) cs
    | c :: cs => readPieces? steps (p.add (.atom (.literal ⟨c, false⟩))) cs

/-- The greatest depth of a pattern. -/
def maxDepth : Nat := 250

/-- Reads a pattern. -/
def Tree.read? (s : List Char) : Option Tree :=
  (readPieces? (s.length + 1) {} s).filter fun t => t.depth ≤ maxDepth

end FunctionHost.Pattern
