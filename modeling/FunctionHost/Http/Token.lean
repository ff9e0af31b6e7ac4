/-!
# Tokens

The characters of RFC 9110 tokens, of which methods and header names are made.
-/

namespace FunctionHost.Http

/-- An ASCII letter. -/
def isLetter (n : Nat) : Bool := (65 ≤ n && n ≤ 90) || (97 ≤ n && n ≤ 122)

/-- An ASCII digit. -/
def isDigit (n : Nat) : Bool := 48 ≤ n && n ≤ 57

/-- The marks that a token may hold beside letters and digits. -/
def tokenMarks : List Nat := [33, 35, 36, 37, 38, 39, 42, 43, 45, 46, 94, 95, 96, 124, 126]

/-- A character of a token, by its number. -/
def isTokenChar (n : Nat) : Bool := isLetter n || isDigit n || tokenMarks.contains n

/-- The lower-case form of an ASCII letter; any other character is itself. -/
def lowerChar (c : Char) : Char := if 'A' ≤ c ∧ c ≤ 'Z' then Char.ofNat (c.toNat + 32) else c

/-- The upper-case form of an ASCII letter; any other character is itself. -/
def upperChar (c : Char) : Char := if 'a' ≤ c ∧ c ≤ 'z' then Char.ofNat (c.toNat - 32) else c

/-- A text with its ASCII letters in lower case. -/
def lower (s : List Char) : List Char := s.map lowerChar

end FunctionHost.Http
