import Mailroom.Text.Digit
import Mailroom.Text.Space

/-!
# Integer numerals

An integer is written as digits of any script, with single underscores allowed between them, an
optional sign in front, and white space around the whole. A decimal numeral has at most 4300 digits;
numerals in base two, eight and sixteen have no such bound and may carry a base mark (`0b`, `0o`,
`0x`).

The bound is on digits, not on values: zeros in front count, underscores do not. A text that starts
with too many digits is too long even if what follows them is no part of a numeral, unless an
underscore is out of place. The two errors are kept apart because they have different messages.

The same bound holds for writing (`writeDecimal?`), so what can be read in decimal can be written
again, and an integer beyond the bound has no decimal form at all.
-/

set_option autoImplicit false

namespace Mailroom.Text

def digitLimit : Nat := 4300

inductive NumeralError where
  | malformed
  /-- The text starts with more decimal digits than are allowed. -/
  | tooLong (digits : Nat)
  deriving DecidableEq, Repr

/-- The value of a digit: a decimal digit of any script, or a letter from ten on. -/
def digitIn? (base : Nat) (c : Char) : Option Nat :=
  let value? :=
    match digitValue? c with
    | some d => some d
    | none =>
      if 'a' ≤ c && c ≤ 'z' then some (c.toNat - 'a'.toNat + 10)
      else if 'A' ≤ c && c ≤ 'Z' then some (c.toNat - 'A'.toNat + 10)
      else none
  value?.filter (· < base)

/-- What stands at the front of a list of characters: digits, with single underscores between
them. -/
structure DigitRun where
  digits : List Nat
  rest : List Char
  /-- Whether every underscore of the run stands between two digits. -/
  wellPlaced : Bool

/-- The run of digits and underscores at the front; `afterDigit` says whether a digit stands right
before it. -/
def digitRun (base : Nat) : Bool → List Char → DigitRun
  | afterDigit, [] => ⟨[], [], afterDigit⟩
  | afterDigit, c :: cs =>
    match digitIn? base c with
    | some d =>
      let run := digitRun base true cs
      { run with digits := d :: run.digits }
    | none =>
      if c = '_' then
        if afterDigit then digitRun base false cs else ⟨[], cs, false⟩
      else ⟨[], c :: cs, afterDigit⟩

def ofDigits (base : Nat) (digits : List Nat) : Nat :=
  digits.foldl (fun n d => n * base + d) 0

/-- Takes a sign off the front; `true` is minus. -/
def takeSign : List Char → Bool × List Char
  | '-' :: cs => (true, cs)
  | '+' :: cs => (false, cs)
  | cs => (false, cs)

def marksBase (base : Nat) (m : Char) : Bool :=
  (base == 2 && (m == 'b' || m == 'B')) || (base == 8 && (m == 'o' || m == 'O')) ||
    (base == 16 && (m == 'x' || m == 'X'))

/-- Takes the mark of a base off the front, with the underscore that may follow it. The zero of the
mark may be that of any script. -/
def dropBaseMark (base : Nat) : List Char → List Char
  | z :: m :: cs =>
    if digitValue? z == some 0 && marksBase base m then
      match cs with
      | '_' :: rest => rest
      | rest => rest
    else z :: m :: cs
  | cs => cs

def readInteger (base : Nat) (cs : List Char) : Except NumeralError Int :=
  let (negative, body) := takeSign (trimBoth isSpace cs)
  let run := digitRun base false (dropBaseMark base body)
  if !run.wellPlaced then .error .malformed
  else if base = 10 ∧ digitLimit < run.digits.length then .error (.tooLong run.digits.length)
  else if !run.rest.isEmpty then .error .malformed
  else
    let magnitude : Int := ofDigits base run.digits
    .ok (if negative then -magnitude else magnitude)

def writeDecimal? (n : Int) : Option String :=
  if n.natAbs < Nat.pow 10 digitLimit then some (toString n) else none

def unwritableMessage : String :=
  s!"Exceeds the limit ({digitLimit} digits) for integer string conversion; " ++
    "use sys.set_int_max_str_digits() to increase the limit"

def readDecimal (s : String) : Except NumeralError Int := readInteger 10 s.toList

end Mailroom.Text
