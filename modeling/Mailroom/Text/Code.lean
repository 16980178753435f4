import Mailroom.Text.Case
import Mailroom.Text.Quoted

/-!
# Code points

An escape can write any code point, also half of a surrogate pair, which is no character. So a text
with escapes is a list of code points, and only if it has no such half is it a string. Two halves
are never put together, not even if they stand side by side in the right order.

Where such a text is read for what it says, as a number or a date, a half counts as a character that
no such form allows. Where it is shown, it is an escape again. A text with a half in it differs from
every string, and nothing that needs a string takes it.
-/

set_option autoImplicit false

namespace Mailroom.Text

inductive Code where
  | char (c : Char)
  /-- Half of a surrogate pair. -/
  | half (n : Nat)
  deriving DecidableEq, Repr

namespace Code

def ofNat (n : Nat) : Code :=
  if 0xD800 ≤ n && n ≤ 0xDFFF then .half n else .char (Char.ofNat n)

def char? : Code → Option Char
  | .char c => some c
  | .half _ => none

/-- The character that a code point is read as. A half is read as the replacement character, which
is neither a letter nor a digit, nor a mark of any kind. -/
def standIn : Code → Char
  | .char c => c
  | .half _ => '\ufffd'

def escape (quote : Char) : Code → List Char
  | .char c => escapeChar quote c
  | .half n => '\\' :: 'u' :: hexPadded 4 n

def ofString (s : String) : List Code := s.toList.map .char

def string? (codes : List Code) : Option String := (codes.mapM char?).map String.ofList

def quoted (codes : List Code) : List Char :=
  let quote := quoteFor (codes.map standIn)
  quote :: codes.flatMap (escape quote) ++ [quote]

/-- Code points with a function applied to each run of characters between two halves; `run` is the
run so far, last character first. -/
def mapRuns (f : List Char → List Char) (run : List Char) : List Code → List Code
  | [] => (f run.reverse).map .char
  | .char c :: rest => mapRuns f (c :: run) rest
  | .half n :: rest => (f run.reverse).map .char ++ .half n :: mapRuns f [] rest

/-- Code points in lower case. No word goes beyond a half. -/
def lower (codes : List Code) : List Code := mapRuns lowerChars [] codes

end Code

end Mailroom.Text
