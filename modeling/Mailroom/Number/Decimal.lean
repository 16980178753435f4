import Mailroom.Number.Binary64

/-!
# Doubles in decimal

Two ways to write a double. `shortest` gives the fewest digits that read back as the same double,
and among those the nearest: it looks for the largest power of ten that has a multiple in the
interval of the reals that round to the double. `fixed` gives a fixed number of places, rounding the
exact binary value, a half to the even digit.

Everything is decided in natural numbers. The interval is scaled so that its ends are integers, and
the powers of two and of ten are multiplied out on the side where their exponents are positive.

`RealFormat` holds what a written form decides beyond its digits: from where on an exponent is
written, how wide it is, and how the values that are no numbers are named.
-/

set_option autoImplicit false

namespace Mailroom.Binary64

/-- A positive decimal `digits * 10 ^ power`. -/
structure Decimal where
  digits : Nat
  power : Int
  deriving DecidableEq, Repr

/-- The interval of the reals that round to `mantissa * 2 ^ exponent`, in units of
`2 ^ (exponent - 2)`: its lower end, the value, its upper end. Below a power of two the gap to the
next double is half as wide. -/
def neighbourhood (mantissa : Nat) (exponent : Int) : Nat × Nat × Nat :=
  let low :=
    if mantissa = twoTo 52 && leastExponent < exponent then 4 * mantissa - 1 else 4 * mantissa - 2
  (low, 4 * mantissa, 4 * mantissa + 2)

/-- The multiple of `10 ^ power` that is nearest to the double, if one rounds to it. The ends of the
interval round to the double when its mantissa is even. -/
def multipleAt (mantissa : Nat) (exponent : Int) (power : Int) : Option Nat :=
  let (low, value, high) := neighbourhood mantissa exponent
  let scale := exponent - 2
  let a := twoTo scale.toNat * tenTo (-power).toNat
  let b := twoTo (-scale).toNat * tenTo power.toNat
  let below := value * a / b
  let inside (c : Nat) : Bool :=
    if mantissa % 2 == 0 then low * a ≤ c * b && c * b ≤ high * a
    else low * a < c * b && c * b < high * a
  let down := value * a - below * b
  let up := (below + 1) * b - value * a
  if inside below && inside (below + 1) then
    some (if down < up || (down == up && below % 2 == 0) then below else below + 1)
  else if inside below then some below
  else if inside (below + 1) then some (below + 1)
  else none

/-- The first hit among the powers of ten from `k - 330` downwards. -/
def shortestFrom (mantissa : Nat) (exponent : Int) : Nat → Decimal
  | 0 => ⟨0, 0⟩
  | k + 1 =>
    let power : Int := (k : Int) - 330
    match multipleAt mantissa exponent power with
    | some c => ⟨c, power⟩
    | none => shortestFrom mantissa exponent k

/-- The shortest decimal that reads back as a positive double. No double lies outside the range of
the powers that are tried. -/
def shortest (mantissa : Nat) (exponent : Int) : Decimal := shortestFrom mantissa exponent 661

structure RealFormat where
  /-- The point may stand up to this many digits after the first digit. -/
  mostWhole : Int
  /-- At most this many zeros may follow the point before the first digit. -/
  mostZeros : Int
  exponentWidth : Nat
  infinity : String
  notANumber : String

def paddedNat (width n : Nat) : String :=
  let digits := Nat.toDigits 10 n
  String.ofList (List.replicate (width - digits.length) '0' ++ digits)

/-- A decimal with a point, and a zero on either side of it where there is no digit. -/
def Decimal.positional (d : Decimal) : String :=
  let digits := Nat.toDigits 10 d.digits
  let point : Int := digits.length + d.power
  if point ≤ 0 then
    "0." ++ String.ofList (List.replicate (-point).toNat '0' ++ digits)
  else if digits.length ≤ point then
    String.ofList (digits ++ List.replicate d.power.toNat '0') ++ ".0"
  else
    String.ofList (digits.take point.toNat) ++ "." ++ String.ofList (digits.drop point.toNat)

/-- A decimal with an exponent that always has a sign. -/
def Decimal.scientific (width : Nat) (d : Decimal) : String :=
  let digits := Nat.toDigits 10 d.digits
  let exponent : Int := digits.length + d.power - 1
  let whole := String.ofList (digits.take 1)
  let part := String.ofList (digits.drop 1)
  let mark := if exponent < 0 then "e-" else "e+"
  (if part.isEmpty then whole else whole ++ "." ++ part) ++ mark ++
    paddedNat width exponent.natAbs

/-- A double with the fewest digits that read back. -/
def write (format : RealFormat) : Binary64 → String
  | .nan => format.notANumber
  | .infinite s => (if s then "-" else "") ++ format.infinity
  | .finite s m e =>
    let sign := if s then "-" else ""
    if m = 0 then sign ++ "0.0"
    else
      let d := shortest m e
      let point : Int := (Nat.toDigits 10 d.digits).length + d.power
      sign ++
        (if -format.mostZeros ≤ point && point ≤ format.mostWhole then d.positional
         else d.scientific format.exponentWidth)

def fixed (places : Nat) : Binary64 → String
  | .nan => "nan"
  | .infinite s => if s then "-inf" else "inf"
  | .finite s m e =>
    let (a, b) := fraction m e
    let scaled := roundDiv (a * tenTo places) b
    (if s then "-" else "") ++ toString (scaled / tenTo places) ++ "." ++
      paddedNat places (scaled % tenTo places)

end Mailroom.Binary64
