import Mailroom.Data.Scalar
import Mailroom.Number.Numeral
import Mailroom.Yaml.Cursor
import Mailroom.Yaml.Tag

/-!
# The value of a scalar

The tag of a scalar decides how its text is converted. A tag that is written out may stand before
any text, so each conversion says what is wrong with a text that it does not fit.

Numbers are converted in their own way, not as plain numerals. Underscores are dropped wherever they
stand. A zero in front makes an integer octal. Numbers with colons are in base sixty. Digits may be
those of any script, if there is a tag; without one the text would not have suggested a number.

Bytes that are not well written, and tags that no scalar has, are faults of the document
(`Error.malformed`). All other faults are those of scalars, and their messages quote the text as it
was converted: without its underscores and its sign, in lower case if it was put in lower case.
-/

set_option autoImplicit false

namespace Mailroom.Yaml

open Text (Code)

def readAs (text : List Code) : List Char := text.map (·.standIn)

def withoutUnderscores (text : List Code) : List Code := text.filter (· != .char '_')

/-- A number without its sign, and whether the sign is a minus. A number has a first character. -/
def splitSign : List Code → Except ScalarError (Bool × List Code)
  | [] => .error .emptyNumber
  | .char '-' :: rest => .ok (true, rest)
  | .char '+' :: rest => .ok (false, rest)
  | text => .ok (false, text)

def integerIn (base : Nat) (text : List Code) : Except ScalarError Int :=
  match Text.readInteger base (readAs text) with
  | .ok n => .ok n
  | .error e => .error (.ofNumeral base text e)

def colonParts (text : List Code) : List (List Code) := text.splitOn (.char ':')

/-- An integer without a sign: binary, hexadecimal, octal, decimal, or in base sixty with colons
between its digits. -/
def magnitude : List Code → Except ScalarError Int
  | [.char '0'] => .ok 0
  | .char '0' :: .char 'b' :: rest => integerIn 2 rest
  | .char '0' :: .char 'x' :: rest => integerIn 16 rest
  | .char '0' :: rest => integerIn 8 (.char '0' :: rest)
  | [] => .error .emptyNumber
  | text =>
    if text.contains (.char ':') then do
      let digits ← (colonParts text).mapM (integerIn 10)
      return digits.foldl (fun n d => n * 60 + d) 0
    else integerIn 10 text

def integer (text : List Code) : Except ScalarError Int := do
  let (negative, digits) ← splitSign (withoutUnderscores text)
  let n ← magnitude digits
  return if negative then -n else n

def decimalReal (text : List Code) : Except ScalarError Binary64 :=
  match Binary64.read? (String.ofList (readAs text)) with
  | some x => .ok x
  | none => .error (.notReal text)

/-- The value of digits in base sixty, least significant first, where `unit` is the value of the
first. Each product and each sum is rounded. The value of a digit has to be a double. -/
def sumSixties (unit : Int) (sum : Binary64) : List Binary64 → Except ScalarError Binary64
  | [] => .ok sum
  | d :: ds =>
    match Binary64.ofInt unit with
    | .infinite _ => .error .realOverflow
    | weight => sumSixties (unit * 60) (sum.add (d.mul weight)) ds

def realParts (text : List Code) : Except ScalarError (Bool × List Code) :=
  splitSign (Code.lower (withoutUnderscores text))

def nanWord : List Code := Code.ofString ".nan"

def writesNan (text : List Code) : Bool :=
  match realParts text with
  | .ok (_, word) => word == nanWord
  | .error _ => false

def real (text : List Code) : Except ScalarError Binary64 := do
  let (negative, word) ← realParts text
  let x ←
    if word = Code.ofString ".inf" then pure (Binary64.infinite false)
    else if word = nanWord then pure Binary64.nan
    else if word.contains (.char ':') then do
      let digits ← (colonParts word).mapM decimalReal
      sumSixties 1 .zero digits.reverse
    else decimalReal word
  return if negative then x.neg else x

def truth (text : List Code) : Except ScalarError Bool :=
  let word := Code.lower text
  if (["yes", "true", "on"].map Code.ofString).contains word then .ok true
  else if (["no", "false", "off"].map Code.ofString).contains word then .ok false
  else .error (.notBoolean word)

def ofDigits (cs : List Char) : Nat := cs.foldl (fun n c => n * 10 + (c.toNat - '0'.toNat)) 0

/-- The microseconds of a fraction of a second. Only six digits count. -/
def microseconds (fraction : List Char) : Nat :=
  ofDigits ((fraction ++ List.replicate 6 '0').take 6)

def timestamp (text : List Code) : Except ScalarError Scalar :=
  match Tag.stamp? (Tag.dropFinalLineFeed (readAs text)) with
  | none => .error .notTimestamp
  | some s =>
    let year := ofDigits s.year
    let month := ofDigits s.month
    let day := ofDigits s.day
    match s.time with
    | none =>
      match Date.ofFields year month day with
      | .ok d => .ok (.date d)
      | .error e => .error (.calendar e)
    | some (hour, minute, second) =>
      let offset := s.offset.map fun (negative, hours, minutes) =>
        let span : Int := (ofDigits hours * 60 + ofDigits minutes : Nat)
        if negative then -span else span
      match DateTime.ofFields year month day (ofDigits hour) (ofDigits minute) (ofDigits second)
          (microseconds s.fraction) offset with
      | .ok t => .ok (.dateTime t)
      | .error e => .error (.calendar e)

/-! ## Bytes -/

def base64Value? (c : Char) : Option Nat :=
  if 'A' ≤ c && c ≤ 'Z' then some (c.toNat - 'A'.toNat)
  else if 'a' ≤ c && c ≤ 'z' then some (c.toNat - 'a'.toNat + 26)
  else if '0' ≤ c && c ≤ '9' then some (c.toNat - '0'.toNat + 52)
  else if c == '+' then some 62
  else if c == '/' then some 63
  else none

/-- The bytes of a text in base sixty-four. `place` is the place of the next digit among its four,
`left` holds the bits that are not yet part of a byte, and `pads` counts the padding so far.
Characters that are neither digits nor padding are skipped. -/
def base64Bytes? (place left pads : Nat) : List Char → Option (List UInt8)
  | [] => if place == 0 then some [] else none
  | c :: cs =>
    if c == '=' then
      if 2 ≤ place && 4 ≤ place + pads + 1 then some []
      else base64Bytes? place left (if 2 ≤ place then pads + 1 else pads) cs
    else
      match base64Value? c with
      | none => base64Bytes? place left pads cs
      | some v =>
        match place with
        | 0 => base64Bytes? 1 v 0 cs
        | 1 => (base64Bytes? 2 (v % 16) 0 cs).map (UInt8.ofNat (left * 4 + v / 16) :: ·)
        | 2 => (base64Bytes? 3 (v % 4) 0 cs).map (UInt8.ofNat (left * 16 + v / 4) :: ·)
        | _ => (base64Bytes? 0 0 0 cs).map (UInt8.ofNat (left * 64 + v) :: ·)

def binary (text : List Code) : Except Error Scalar :=
  let cs := readAs text
  if cs.all (·.toNat < 0x80) then
    match base64Bytes? 0 0 0 cs with
    | some bytes => .ok (.bytes bytes)
    | none => .error .malformed
  else .error .malformed

/-! ## Any scalar -/

def scalarFault {α : Type} : Except ScalarError α → Except Error α
  | .ok a => .ok a
  | .error e => .error (.scalar e)

def scalarValue (tag : Tag) (text : List Code) : Except Error Scalar :=
  match tag with
  | .null => .ok .null
  | .bool => scalarFault ((truth text).map .bool)
  | .int => scalarFault ((integer text).map .int)
  | .float => scalarFault ((real text).map .real)
  | .timestamp => scalarFault (timestamp text)
  | .binary => binary text
  | .str => .ok (.ofCodes text)
  | _ => .error .malformed

end Mailroom.Yaml
