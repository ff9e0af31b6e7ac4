import FunctionHost.Toml.Items
/-!
# Reading TOML

`readStatements?` reads the lines of a document. Every function here takes a text and gives what it
has read together with the rest of the text.
-/

namespace FunctionHost.Toml

open FunctionHost.Text

/-! ### Blanks, line ends and comments -/

/-- A blank inside a line. -/
def isBlank (c : Char) : Bool := c == ' ' || c == '\t'

/-- Drops blanks inside a line. -/
def dropBlanks (cs : List Char) : List Char := cs.dropWhile isBlank

/-- A character that may stand for itself in a text or a comment: no control character but the
tab. -/
def isPlain (c : Char) : Bool := c == '\t' || 0x20 ≤ c.toNat && c.toNat != 0x7F

/-- Reads a line end. -/
def lineEnd? : List Char → Option (List Char)
  | '\n' :: cs => some cs
  | '\r' :: '\n' :: cs => some cs
  | _ => none

/-- Drops a comment up to the end of its line. -/
def dropComment (cs : List Char) : List Char :=
  match cs with
  | '#' :: _ => cs.dropWhile isPlain
  | _ => cs

/-- Reads what may follow a statement on its line: blanks, a comment, and the end of the line or of
the text. -/
def finishLine? (cs : List Char) : Option (List Char) :=
  match dropComment (dropBlanks cs) with
  | [] => some []
  | cs => lineEnd? cs

/-- Drops blanks, comments and line ends, in so many steps at most. A comment that no line end
follows is left. -/
def dropLines : Nat → List Char → List Char
  | 0, cs => cs
  | steps + 1, cs =>
    let cs := dropBlanks cs
    match lineEnd? (dropComment cs) with
    | some rest => dropLines steps rest
    | none => cs

/-! ### Texts -/

/-- The characters with a letter of their own after a backslash. -/
def escapes : List (Char × Char) := [
  ('b', '\x08'), ('t', '\t'), ('n', '\n'), ('f', '\x0c'), ('r', '\r'), ('\x22', '\x22'),
  ('\\', '\\')]

/-- Reads the number of a character in so many digits. -/
def readNumbered? (length : Nat) (cs : List Char) : Option (Char × List Char) := do
  let ds := cs.take length
  let n ← read? 16 ds
  if ds.length = length ∧ n.isValidChar then some (Char.ofNat n, cs.drop length) else none

/-- Reads what follows a backslash. -/
def readEscape? : List Char → Option (Char × List Char)
  | [] => none
  | 'u' :: cs => readNumbered? 4 cs
  | 'U' :: cs => readNumbered? 8 cs
  | c :: cs => (escapes.lookup c).map fun d => (d, cs)

/-- How a text is written. -/
structure Style where
  /-- The mark around it. -/
  mark : Char
  /-- A backslash begins an escape. -/
  escaped : Bool
  /-- It may go over several lines; three marks stand around it. -/
  long : Bool

/-- Drops a line end together with all blanks and line ends after it, in so many steps at most. -/
def joinLines? (steps : Nat) (cs : List Char) : Option (List Char) := do
  let rest ← lineEnd? (dropBlanks cs)
  let rec go : Nat → List Char → List Char
    | 0, cs => cs
    | steps + 1, cs =>
      match lineEnd? (dropBlanks cs) with
      | some rest => go steps rest
      | none => dropBlanks cs
  return go steps rest

/-- Reads a text after its opening marks, in so many steps at most; `done` holds the characters
read, the last first. In a long text up to two marks may stand anywhere, also before the closing
ones. -/
def readText? (st : Style) : Nat → List Char → List Char → Option (String × List Char)
  | 0, _, _ => none
  | _ + 1, _, [] => none
  | steps + 1, done, c :: cs =>
    if c = st.mark then
      if !st.long then some (String.ofList done.reverse, cs)
      else
        let marks := 1 + (cs.takeWhile (· == st.mark)).length
        if marks ≤ 2 then
          readText? st steps (List.replicate marks st.mark ++ done) (cs.drop (marks - 1))
        else
          let inside := min (marks - 3) 2
          some (String.ofList (List.replicate inside st.mark ++ done).reverse,
            cs.drop (inside + 2))
    else if st.escaped && c == '\\' then
      match if st.long then joinLines? cs.length cs else none with
      | some rest => readText? st steps done rest
      | none =>
        match readEscape? cs with
        | some (d, rest) => readText? st steps (d :: done) rest
        | none => none
    else if isPlain c then readText? st steps (c :: done) cs
    else if st.long then
      match lineEnd? (c :: cs) with
      | some rest => readText? st steps ('\n' :: done) rest
      | none => none
    else none

/-- The mark of a text and how it reads escapes. -/
def markOf? (c : Char) : Option Bool :=
  if c = '\x22' then some true else if c = '\x27' then some false else none

/-- Reads a text on one line. -/
def readShort? : List Char → Option (String × List Char)
  | [] => none
  | c :: cs => do readText? ⟨c, ← markOf? c, false⟩ (cs.length + 1) [] cs

/-- Reads a text on one line or on several. A line end right after the opening marks is dropped. -/
def readString? : List Char → Option (String × List Char)
  | [] => none
  | c :: cs => do
    let escaped ← markOf? c
    match after? [c, c] cs with
    | some rest =>
      let rest := (lineEnd? rest).getD rest
      readText? ⟨c, escaped, true⟩ (rest.length + 1) [] rest
    | none => readText? ⟨c, escaped, false⟩ (cs.length + 1) [] cs

/-! ### Keys -/

/-- A character of a bare key. -/
def isBare (c : Char) : Bool := c.isAlphanum || c == '-' || c == '_'

/-- Reads a part of a key with the blanks around it. -/
def readPart? (cs : List Char) : Option (String × List Char) := do
  let cs := dropBlanks cs
  let (s, cs) ← (readShort? cs).or
    (let bare := cs.takeWhile isBare
     if bare.isEmpty then none else some (String.ofList bare, cs.dropWhile isBare))
  return (s, dropBlanks cs)

/-- The most parts of a key, and one more. -/
def maxParts : Nat := 80

/-- Reads a key, whose parts have dots between them, in so many steps at most. -/
def readPath? : Nat → List Char → Option (List String × List Char)
  | 0, _ => none
  | steps + 1, cs => do
    let (s, cs) ← readPart? cs
    match cs with
    | '.' :: cs =>
      let (ss, cs) ← readPath? steps cs
      return (s :: ss, cs)
    | cs => return ([s], cs)

/-- Reads a key of less than `maxParts` parts. -/
def readKey? (cs : List Char) : Option (List String × List Char) := readPath? (maxParts - 1) cs

/-! ### Values -/

/-- Reads a value that is neither a text nor has parts: a truth value, a date or a time, or a
number. -/
def readPlain? (cs : List Char) : Option (Value × List Char) :=
  match after? "true".toList cs, after? "false".toList cs with
  | some rest, _ => some (.truth true, rest)
  | none, some rest => some (.truth false, rest)
  | none, none =>
    match readMoment? cs, readFloat? cs with
    | some (m, rest), _ => some (.moment m, rest)
    | none, some (x, rest) => some (.float x, rest)
    | none, none => (readInteger? cs).map fun (n, rest) => (.integer n, rest)

/-- The most levels of arrays and tables in braces, and one more. -/
def maxLevels : Nat := 80

mutual

/-- Reads a value in so many steps at most; `level` is the number of levels still to go. -/
def readValue? (level : Nat) : Nat → List Char → Option (Value × List Char)
  | 0, _ => none
  | steps + 1, cs =>
    match cs with
    | [] => none
    | c :: rest =>
      if (markOf? c).isSome then (readString? cs).map fun (s, cs) => (.text s, cs)
      else if c = '[' then
        if level ≤ 1 then none
        else (readElements? (level - 1) steps rest).map fun (vs, cs) => (.array vs, cs)
      else if c = '\x7b' then
        if level ≤ 1 then none
        else
          match dropBlanks rest with
          | '\x7d' :: cs => some (.table [], cs)
          | cs => do
            let (assignments, cs) ← readMembers? (level - 1) steps cs
            return (.table (Items.members (← Items.ofAssignments? assignments)), cs)
      else readPlain? cs

/-- Reads the elements of an array up to its closing bracket. A comma may stand after the last. -/
def readElements? (level : Nat) : Nat → List Char → Option (List Value × List Char)
  | 0, _ => none
  | steps + 1, cs => do
    match dropLines cs.length cs with
    | ']' :: cs => return ([], cs)
    | cs =>
      let (v, cs) ← readValue? level steps cs
      match dropLines cs.length cs with
      | ']' :: cs => return ([v], cs)
      | ',' :: cs =>
        let (vs, cs) ← readElements? level steps cs
        return (v :: vs, cs)
      | _ => none

/-- Reads the assignments of a table in braces up to the closing brace, on one line and without a
comma after the last. -/
def readMembers? (level : Nat) : Nat → List Char →
    Option (List (List String × Value) × List Char)
  | 0, _ => none
  | steps + 1, cs => do
    let (path, cs) ← readKey? cs
    match cs with
    | '=' :: cs =>
      let (v, cs) ← readValue? level steps (dropBlanks cs)
      match dropBlanks cs with
      | '\x7d' :: cs => return ([(path, v)], cs)
      | ',' :: cs =>
        let (assignments, cs) ← readMembers? level steps cs
        return ((path, v) :: assignments, cs)
      | _ => none
    | _ => none

end

/-! ### Statements -/

/-- Reads a header after its opening bracket. -/
def readHeader? (cs : List Char) : Option (Statement × List Char) := do
  let (path, cs) ← readKey? cs
  match cs with
  | ']' :: cs => return (.header path, cs)
  | _ => none

/-- Reads an assignment. -/
def readAssign? (cs : List Char) : Option (Statement × List Char) := do
  let (path, cs) ← readKey? cs
  match cs with
  | '=' :: cs =>
    let (v, cs) ← readValue? maxLevels (cs.length + 1) (dropBlanks cs)
    return (.assign path v, cs)
  | _ => none

/-- Reads lines to the end of the text, in so many steps at most. -/
def readLines? : Nat → List Char → Option (List Statement)
  | 0, _ => none
  | steps + 1, cs => do
    match dropBlanks cs with
    | [] => return []
    | '#' :: cs => readLines? steps (← finishLine? ('#' :: cs))
    | '\n' :: cs => readLines? steps cs
    | '\r' :: cs => readLines? steps (← lineEnd? ('\r' :: cs))
    | '[' :: cs =>
      let (s, cs) ← readHeader? cs
      return s :: (← readLines? steps (← finishLine? cs))
    | cs =>
      let (s, cs) ← readAssign? cs
      return s :: (← readLines? steps (← finishLine? cs))

/-- What may stand before a document. -/
def byteOrderMark : Char := '\ufeff'

/-- Reads the statements of a document. -/
def readStatements? (cs : List Char) : Option (List Statement) :=
  let cs := (after? [byteOrderMark] cs).getD cs
  readLines? (cs.length + 1) cs

end FunctionHost.Toml
