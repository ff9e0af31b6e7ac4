import FunctionHost.Text.Digits
/-!
# Dates and times of TOML

A date of the Gregorian calendar, a time of day, or both, then perhaps with the difference to the
time of Greenwich. `readMoment?` reads one at the beginning of a text and gives the rest of the text
along with it.
-/

namespace FunctionHost.Toml

open FunctionHost.Text

/-- A date. -/
structure Date where
  /-- The year. -/
  year : Nat
  /-- The month, from one to twelve. -/
  month : Nat
  /-- The day of the month, from one. -/
  day : Nat
deriving DecidableEq, Repr

/-- A time of day. -/
structure Time where
  /-- The hour. -/
  hour : Nat
  /-- The minute. -/
  minute : Nat
  /-- The second; it may be a leap second. -/
  second : Nat
  /-- The nanosecond; what is finer is left out. -/
  nanosecond : Nat
deriving DecidableEq, Repr

/-- A date, a time of day, or both. -/
inductive Moment where
  /-- A date. -/
  | date (d : Date)
  /-- A time of day. -/
  | time (t : Time)
  /-- A date and a time of day, perhaps with its minutes ahead of Greenwich. -/
  | dateTime (d : Date) (t : Time) (ahead : Option Int)
deriving DecidableEq, Repr

/-- A year with a 29th of February. -/
def isLeap (year : Nat) : Bool := year % 4 == 0 && (year % 100 != 0 || year % 400 == 0)

/-- The days of a month. -/
def daysOf (year month : Nat) : Nat :=
  if month = 2 then if isLeap year then 29 else 28
  else if [4, 6, 9, 11].contains month then 30
  else 31

/-- Reads a number of so many digits that lies between two others. -/
def readField? (length low high : Nat) (cs : List Char) : Option (Nat × List Char) := do
  let ds := cs.take length
  let n ← read? 10 ds
  if ds.length = length ∧ low ≤ n ∧ n ≤ high then some (n, cs.drop length) else none

/-- Reads such a number after a mark. -/
def readNextField? (mark : Char) (length low high : Nat) : List Char → Option (Nat × List Char)
  | [] => none
  | c :: cs => if c = mark then readField? length low high cs else none

/-- Reads a date. -/
def readDate? (cs : List Char) : Option (Date × List Char) := do
  let (year, cs) ← readField? 4 0 9999 cs
  let (month, cs) ← readNextField? '-' 2 1 12 cs
  let (day, cs) ← readNextField? '-' 2 1 (daysOf year month) cs
  return (⟨year, month, day⟩, cs)

/-- The decimal places of a second that are kept. -/
def secondPlaces : Nat := 9

/-- Reads the decimal places of a second as nanoseconds; they may be missing. -/
def readNanosecond (cs : List Char) : Nat × List Char :=
  match cs with
  | '.' :: rest =>
    let ds := rest.takeWhile fun c => (digitValue? 10 c).isSome
    let kept := ds.take secondPlaces
    match read? 10 kept with
    | some n => (n * Nat.pow 10 (secondPlaces - kept.length), rest.drop ds.length)
    | none => (0, cs)
  | _ => (0, cs)

/-- Reads a time of day. -/
def readTime? (cs : List Char) : Option (Time × List Char) := do
  let (hour, cs) ← readField? 2 0 23 cs
  let (minute, cs) ← readNextField? ':' 2 0 59 cs
  let (second, cs) ← readNextField? ':' 2 0 60 cs
  let (nanosecond, cs) := readNanosecond cs
  return (⟨hour, minute, second, nanosecond⟩, cs)

/-- Reads hours and minutes. -/
def readMinutes? (cs : List Char) : Option (Nat × List Char) := do
  let (hour, cs) ← readField? 2 0 23 cs
  let (minute, cs) ← readNextField? ':' 2 0 59 cs
  return (hour * 60 + minute, cs)

/-- Reads how many minutes a time is ahead of Greenwich. -/
def readAhead? : List Char → Option (Int × List Char)
  | 'Z' :: cs => some (0, cs)
  | 'z' :: cs => some (0, cs)
  | '+' :: cs => (readMinutes? cs).map fun (n, cs) => ((n : Int), cs)
  | '-' :: cs => (readMinutes? cs).map fun (n, cs) => (-(n : Int), cs)
  | _ => none

/-- Reads a time of day after a date. -/
def readTimeAfterDate? : List Char → Option (Time × List Char)
  | [] => none
  | c :: cs => if c = 'T' ∨ c = 't' ∨ c = ' ' then readTime? cs else none

/-- Reads a date, a time of day, or both. -/
def readMoment? (cs : List Char) : Option (Moment × List Char) :=
  match readDate? cs with
  | none => (readTime? cs).map fun (t, cs) => (.time t, cs)
  | some (d, cs) =>
    match readTimeAfterDate? cs with
    | none => some (.date d, cs)
    | some (t, cs) =>
      match readAhead? cs with
      | none => some (.dateTime d t none, cs)
      | some (n, cs) => some (.dateTime d t (some n), cs)

end FunctionHost.Toml
