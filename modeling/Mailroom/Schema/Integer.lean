import Mailroom.Data.Layer
import Mailroom.Schema.Issue
import Mailroom.Text.Utf8

/-!
# Integers from lenient data

A goal of a level may be written as an integer, as a truth value, as a number without fractional
part, or as a text that writes an integer. Only ASCII digits count.

A text is first taken as a plain numeral: an optional minus sign, and digits without needless zeros.
If it is none, it is tidied and tried once more. Tidying drops white space around the text, a plus
sign, zeros in front, with the underscores among them, a point with nothing but zeros after it, and
single underscores between digits. A minus sign may stand before the zeros in front or after them.

What is wrong with a text is one of two things: it is no numeral, or it has more digits than are
converted. Only the first of them sends it to be tidied, and a text that turns out to be too long
after that is said to be no numeral. A double is bounded otherwise, by the size of a machine word on
both sides, and an integer that came as one is not bounded at all.
-/

set_option autoImplicit false

namespace Mailroom.Schema

open Text

def isAsciiDigit (c : Char) : Bool := '0' ≤ c && c ≤ '9'

def ofAsciiDigits (cs : List Char) : Nat := cs.foldl (fun n c => n * 10 + (c.toNat - '0'.toNat)) 0

/-- A plain numeral without its sign. One that starts with too many digits is oversized, whatever
follows them. -/
def plainNatural (cs : List Char) : Except Complaint Nat :=
  let digits := cs.takeWhile isAsciiDigit
  if digits = ['0'] && cs.length == 1 then .ok 0
  else if digits.isEmpty || digits.head? == some '0' then .error .unreadable
  else if digitLimit < digits.length then .error .oversized
  else if digits.length < cs.length then .error .unreadable
  else .ok (ofAsciiDigits digits)

def plainInteger : List Char → Except Complaint Int
  | '-' :: cs => (plainNatural cs).map fun n => -(n : Int)
  | cs => (plainNatural cs).map fun n => (n : Int)

/-! ## Tidying -/

/-- What follows the zeros and underscores at the front of a text, where `last` is the one right
before it. The zero before a point stays, and so does the last character of a text of nothing
else. Only a digit, a minus sign or a point may follow. -/
def afterZeros? (last : Char) : List Char → Option (List Char)
  | [] => some [last]
  | c :: cs =>
    if c == '0' || c == '_' then afterZeros? c cs
    else if c == '.' then some (last :: c :: cs)
    else if isAsciiDigit c || c == '-' then some (c :: cs)
    else none

/-- A text without zeros in front. It has to start with a digit or with a minus sign. -/
def dropZeros? : List Char → Option (List Char)
  | [] => none
  | c :: cs =>
    if c == '0' then afterZeros? c cs
    else if isAsciiDigit c || c == '-' then some (c :: cs)
    else none

/-- A text without a point that has only zeros after it, at least one. -/
def dropZeroFraction (cs : List Char) : List Char :=
  match cs.dropWhile (· != '.') with
  | '.' :: zeros =>
    if !zeros.isEmpty && zeros.all (· == '0') then cs.takeWhile (· != '.') else cs
  | _ => cs

def hasDoubleUnderscore : List Char → Bool
  | '_' :: '_' :: _ => true
  | _ :: cs => hasDoubleUnderscore cs
  | [] => false

/-- A text without its underscores, if each of them is single and stands inside. -/
def dropUnderscores (cs : List Char) : List Char :=
  if cs.head? == some '_' || cs.getLast? == some '_' || hasDoubleUnderscore cs then cs
  else cs.filter (· != '_')

def tidyDigits? (cs : List Char) : Option (List Char) :=
  (dropZeros? cs).map fun digits => dropUnderscores (dropZeroFraction digits)

def tidy? (cs : List Char) : Option (List Char) :=
  match trimBoth isSpace cs with
  | '+' :: '-' :: _ => none
  | '+' :: cs => tidyDigits? cs
  | '-' :: cs => (tidyDigits? cs).map ('-' :: ·)
  | cs => tidyDigits? cs

/-! ## Integers -/

/-- The integer that a text writes. A text that is oversized only after tidying is unreadable. -/
def integerOfText (cs : List Char) : Except Complaint Int :=
  match plainInteger cs with
  | .error .unreadable =>
    match tidy? cs with
    | none => .error .unreadable
    | some tidied => (plainInteger tidied).mapError fun _ => .unreadable
  | result => result

def wordBound : Int := 9223372036854775808

/-- The integer that a double is, strictly between the negative and the positive word bound. -/
def integerOfReal (x : Binary64) : Except Complaint Int :=
  match x with
  | .finite _ _ _ =>
    match x.toInt? with
    | none => .error .fractional
    | some n => if -wordBound < n && n < wordBound then .ok n else .error .oversized
  | _ => .error .notFinite

def integerOfScalar : Scalar → Except Complaint Int
  | .bool b => .ok (if b then 1 else 0)
  | .int n => .ok n
  | .real x => integerOfReal x
  | .text s => integerOfText s.toList
  | .brokenText _ => .error .notUnicode
  | .bytes bs =>
    match decodeUtf8 bs with
    | .ok cs => integerOfText cs
    | .error _ => .error .unreadable
  | _ => .error .notInteger

def naturalOf {α : Type} [Layered α] (a : α) : Except Complaint Nat :=
  match Layered.layer a with
  | .scalar s =>
    match integerOfScalar s with
    | .error c => .error c
    | .ok n => if n < 0 then .error (.below 0) else .ok n.toNat
  | _ => .error .notInteger

end Mailroom.Schema
