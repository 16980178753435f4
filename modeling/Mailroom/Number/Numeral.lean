import Mailroom.Number.Binary64
import Mailroom.Text.Digit
import Mailroom.Text.Space

/-!
# Decimal numerals of doubles

A real numeral has digits of any script with an optional point among them, an optional exponent, an
optional sign and white space around; `inf`, `infinity` and `nan` are numerals too. Letters may be
of either case. There has to be a digit on one side of the point at least.

The digits and the exponent make an exact fraction, and the fraction is rounded once. A numeral can
have an exponent of any size, so the power of ten is not written out where the answer is known
without it: zero far below the least double, and an infinity far above the largest.
-/

set_option autoImplicit false

namespace Mailroom.Binary64

open Mailroom.Text

def takeDigits : List Char → List Nat × List Char
  | [] => ([], [])
  | c :: cs =>
    match digitValue? c with
    | some d =>
      let (ds, rest) := takeDigits cs
      (d :: ds, rest)
    | none => ([], c :: cs)

def ofDecimalDigits (ds : List Nat) : Nat := ds.foldl (fun n d => n * 10 + d) 0

/-- The nearest double to `digits * 10 ^ power`. Far outside the range of the doubles the answer is
given without the power of ten being written out. -/
def ofDecimal (negative : Bool) (digits : Nat) (power : Int) : Binary64 :=
  if digits = 0 then .finite negative 0 leastExponent
  else
    let point : Int := (Nat.toDigits 10 digits).length + power
    if 400 < point then .infinite negative
    else if point < -400 then .finite negative 0 leastExponent
    else ofQuotient negative (digits * tenTo power.toNat) (tenTo (-power).toNat)

def readExponent? : List Char → Option Int
  | [] => some 0
  | c :: cs =>
    if c == 'e' || c == 'E' then
      let (negative, body) :=
        match cs with
        | '-' :: rest => (true, rest)
        | '+' :: rest => (false, rest)
        | rest => (false, rest)
      let (ds, rest) := takeDigits body
      if ds.isEmpty || !rest.isEmpty then none
      else
        let n : Int := ofDecimalDigits ds
        some (if negative then -n else n)
    else none

def readUnsigned? (negative : Bool) (cs : List Char) : Option Binary64 :=
  let word := String.ofList (cs.map Char.toLower)
  if word = "inf" || word = "infinity" then some (.infinite negative)
  else if word = "nan" then some .nan
  else
    let (whole, afterWhole) := takeDigits cs
    let (part, afterPart) :=
      match afterWhole with
      | '.' :: rest => takeDigits rest
      | rest => ([], rest)
    if whole.isEmpty && part.isEmpty then none
    else
      (readExponent? afterPart).map fun exponent =>
        ofDecimal negative (ofDecimalDigits (whole ++ part)) (exponent - part.length)

def read? (s : String) : Option Binary64 :=
  match trimBoth isSpace s.toList with
  | '-' :: cs => readUnsigned? true cs
  | '+' :: cs => readUnsigned? false cs
  | cs => readUnsigned? false cs

end Mailroom.Binary64
