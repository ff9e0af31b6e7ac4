import FunctionHost.Event.Basic
import FunctionHost.Text.Pieces
import FunctionHost.Text.Utf8
/-!
# Query parameters

A query is read as `application/x-www-form-urlencoded`: pairs stand between `&`, the key ends at
the first `=`, `+` is a blank, and `%` with two digits is a byte; the bytes are UTF-8 read with
replacement.
-/

namespace FunctionHost.Query

open FunctionHost.Text

/-- The value of a digit in base sixteen, given as a byte. -/
def hexValue? (b : UInt8) : Option Nat := digitValue? 16 (Char.ofNat b.toNat)

/-- Bytes with `+` as blank and escaped bytes in place of their escapes; a `%` without two digits is
itself. -/
def unescape : List UInt8 → List UInt8
  | [] => []
  | 43 :: bs => 32 :: unescape bs
  | 37 :: h :: l :: bs =>
    match hexValue? h, hexValue? l with
    | some h, some l => UInt8.ofNat (h * 16 + l) :: unescape bs
    | _, _ => 37 :: unescape (h :: l :: bs)
  | b :: bs => b :: unescape bs
termination_by bs => bs.length

/-- A key or a value as text. -/
def decode (s : List Char) : String :=
  String.ofList (Utf8.decodeLossy (unescape (Utf8.encode s)))

/-- The pair of a segment; without `=` the value is empty. -/
def pair (seg : List Char) : String × String :=
  match cutAt? '=' seg with
  | some (k, v) => (decode k, decode v)
  | none => (decode seg, "")

/-- The pairs of a query in the order written; an empty segment is none. -/
def pairs (q : String) : List (String × String) :=
  ((cutAll '&' q.toList).filter (!·.isEmpty)).map pair

/-- The parameters of a query, or none without a query. -/
def params (q : Option String) : SortedMap Values := Values.grouped (q.elim [] pairs)

end FunctionHost.Query
