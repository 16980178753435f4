import Mailroom.Data.Calendar
import Mailroom.Number.Decimal
import Mailroom.Text.Code
import Mailroom.Text.Numeral

/-!
# Scalars

A scalar is a value without parts. Scalars are also the keys of mappings, and as keys they are
compared by what they stand for: a truth value is the number zero or one, and numbers are the same
if they are equal, whatever their kind. A double that is an integer is compared as that integer, so
no precision is lost on the way. Two moments are the same key if they are the same instant.

`Scalar.shown` is the form in which messages quote a scalar. An integer with too many digits has no
such form. `Scalar.kindName` is the name by which messages refer to the kind of a scalar.

A text is a string wherever it can be. One that has half of a surrogate pair in it can only come
from an escape, and it is a scalar of the same kind, but not a string.
-/

set_option autoImplicit false

namespace Mailroom

inductive Scalar where
  | null
  | bool (b : Bool)
  | int (n : Int)
  | real (x : Binary64)
  | text (s : String)
  /-- A text that is no string, because it has half of a surrogate pair in it. -/
  | brokenText (codes : List Text.Code)
  | bytes (bs : List UInt8)
  | date (d : Date)
  | dateTime (t : DateTime)
  deriving DecidableEq, Repr, Inhabited

namespace Scalar

def ofCodes (codes : List Text.Code) : Scalar :=
  match Text.Code.string? codes with
  | some s => .text s
  | none => .brokenText codes

/-- Doubles are shown positionally from `0.0001` up to sixteen digits before the point. -/
def realFormat : Binary64.RealFormat where
  mostWhole := 16
  mostZeros := 3
  exponentWidth := 2
  infinity := "inf"
  notANumber := "nan"

def shown : Scalar → Option String
  | .null => some "None"
  | .bool b => some (if b then "True" else "False")
  | .int n => Text.writeDecimal? n
  | .real x => some (x.write realFormat)
  | .text s => some (Text.quoted s)
  | .brokenText codes => some (String.ofList (Text.Code.quoted codes))
  | .bytes bs => some (Text.quotedBytes bs)
  | .date d => some d.shown
  | .dateTime t => some t.shown

def kindName : Scalar → String
  | .null => "NoneType"
  | .bool _ => "bool"
  | .int _ => "int"
  | .real _ => "float"
  | .text _ => "str"
  | .brokenText _ => "str"
  | .bytes _ => "bytes"
  | .date _ => "date"
  | .dateTime _ => "datetime"

/-- Whether a scalar counts as nothing where a value is optional: null, false, zero and everything
empty. -/
def isBlank : Scalar → Bool
  | .null => true
  | .bool b => !b
  | .int n => n == 0
  | .real x => x.sameValue Binary64.zero
  | .text s => s.isEmpty
  | .brokenText codes => codes.isEmpty
  | .bytes bs => bs.isEmpty
  | .date _ => false
  | .dateTime _ => false

def keyNumber? : Scalar → Option (Int ⊕ Binary64)
  | .bool b => some (.inl (if b then 1 else 0))
  | .int n => some (.inl n)
  | .real x =>
    match x.toInt? with
    | some n => some (.inl n)
    | none => some (.inr x)
  | _ => none

def sameKey (a b : Scalar) : Bool :=
  match a, b with
  | .null, .null => true
  | .text s, .text t => s == t
  | .brokenText s, .brokenText t => s == t
  | .bytes s, .bytes t => s == t
  | .date d, .date e => d == e
  | .dateTime t, .dateTime u => t.sameInstant u
  | a, b =>
    match a.keyNumber?, b.keyNumber? with
    | some (.inl m), some (.inl n) => m == n
    | some (.inr x), some (.inr y) => x.sameValue y
    | _, _ => false

end Scalar

end Mailroom
