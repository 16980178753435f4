/-!
# Double-precision numbers

A finite double is a signed multiple of a power of two: `mantissa * 2 ^ exponent` with a mantissa of
at most 53 bits and an exponent of at least -1074. Every operation that must round goes through
`nearest`, which takes an exact quotient of two naturals to the nearest double, a half going to the
even mantissa. So division of integers, decimal numerals and the sums and products below are all
correctly rounded, and nothing here depends on the arithmetic of the processor.

Doubles come from two sides. The speed of a program is one, and what matters about it is that it is
compared with an integer without being rounded again (`leInt`). The numbers of a document are the
others, and they are compared with each other and with integers where they are keys.

All operations keep to the one form of a double that `nearest` gives. Equality of forms is then
equality of numbers, but for the zeros, of which there are two, and for NaN.
-/

set_option autoImplicit false

namespace Mailroom

/-- A double-precision number. A finite one is in lowest terms for its format: the mantissa has 53
bits, or the exponent is the least one. -/
inductive Binary64 where
  | finite (negative : Bool) (mantissa : Nat) (exponent : Int)
  | infinite (negative : Bool)
  | nan
  deriving DecidableEq, Repr, Inhabited

namespace Binary64

def twoTo (n : Nat) : Nat := Nat.pow 2 n

def tenTo (n : Nat) : Nat := Nat.pow 10 n

/-- The quotient of two naturals, rounded to the nearest natural, a half to the even one. -/
def roundDiv (num den : Nat) : Nat :=
  let q := num / den
  let twice := 2 * (num % den)
  if den < twice || (twice == den && q % 2 == 1) then q + 1 else q

/-- The quotient `num / den` in units of `2 ^ exponent`, rounded to a natural. -/
def inUnits (num den : Nat) (exponent : Int) : Nat :=
  roundDiv (num * twoTo (-exponent).toNat) (den * twoTo exponent.toNat)

/-- The largest `k` with `2 ^ k ≤ num / den`, for a positive quotient. -/
def floorLog2 (num den : Nat) : Int :=
  let k : Int := (num.log2 : Int) - den.log2
  if den * twoTo k.toNat ≤ num * twoTo (-k).toNat then k else k - 1

def leastExponent : Int := -1074

/-- The nearest double to the quotient of a natural by a positive one, as mantissa and exponent;
`none` when it is too large. -/
def nearest (num den : Nat) : Option (Nat × Int) :=
  if num = 0 then some (0, leastExponent)
  else
    let exponent := max (floorLog2 num den - 52) leastExponent
    let mantissa := inUnits num den exponent
    -- rounding up may have carried into a fifty-fourth bit
    let (mantissa, exponent) :=
      if mantissa = twoTo 53 then (twoTo 52, exponent + 1) else (mantissa, exponent)
    if exponent > 971 then none else some (mantissa, exponent)

/-- The nearest double to a signed quotient, infinite when it is too large. -/
def ofQuotient (negative : Bool) (num den : Nat) : Binary64 :=
  match nearest num den with
  | some (mantissa, exponent) => .finite negative mantissa exponent
  | none => .infinite negative

def zero : Binary64 := .finite false 0 leastExponent

def ofInt (n : Int) : Binary64 := ofQuotient (n < 0) n.natAbs 1

/-- The nearest double to `n / d`; `none` when it is too large. The quotient of zero has no sign. -/
def divInt? (n : Int) (d : Nat) : Option Binary64 :=
  (nearest n.natAbs d).map fun (mantissa, exponent) => .finite (n < 0) mantissa exponent

def neg : Binary64 → Binary64
  | .finite s m e => .finite (!s) m e
  | .infinite s => .infinite (!s)
  | .nan => .nan

/-- The value of a finite double as a fraction: its numerator, without the sign, and denominator. -/
def fraction (mantissa : Nat) (exponent : Int) : Nat × Nat :=
  (mantissa * twoTo exponent.toNat, twoTo (-exponent).toNat)

def mul : Binary64 → Binary64 → Binary64
  | .finite s m e, .finite t n f =>
    let (a, b) := fraction m e
    let (c, d) := fraction n f
    ofQuotient (s != t) (a * c) (b * d)
  | .nan, _ => .nan
  | _, .nan => .nan
  | .infinite s, .infinite t => .infinite (s != t)
  | .infinite s, .finite t n _ => if n = 0 then .nan else .infinite (s != t)
  | .finite s m _, .infinite t => if m = 0 then .nan else .infinite (s != t)

def add : Binary64 → Binary64 → Binary64
  | .finite s m e, .finite t n f =>
    let (a, b) := fraction m e
    let (c, d) := fraction n f
    let x : Int := (if s then -1 else 1) * (a * d : Nat)
    let y : Int := (if t then -1 else 1) * (c * b : Nat)
    if x + y = 0 then .finite (s && t) 0 leastExponent
    else ofQuotient (x + y < 0) (x + y).natAbs (b * d)
  | .nan, _ => .nan
  | _, .nan => .nan
  | .infinite s, .infinite t => if s = t then .infinite s else .nan
  | .infinite s, .finite _ _ _ => .infinite s
  | .finite _ _ _, .infinite t => .infinite t

def leInt (x : Binary64) (n : Int) : Bool :=
  match x with
  | .finite s m e =>
    let (a, b) := fraction m e
    let signed : Int := if s then -(a : Int) else a
    signed ≤ n * b
  | .infinite s => s
  | .nan => false

def toInt? : Binary64 → Option Int
  | .finite s m e =>
    let (a, b) := fraction m e
    if a % b = 0 then
      let n : Int := (a / b : Nat)
      some (if s then -n else n)
    else none
  | .infinite _ => none
  | .nan => none

/-- Whether two doubles are equal as numbers: zero has one value whatever its sign, and a NaN is
equal to nothing. -/
def sameValue : Binary64 → Binary64 → Bool
  | .finite s m e, .finite t n f => m == n && e == f && (s == t || m == 0)
  | .infinite s, .infinite t => s == t
  | _, _ => false

def bits : Binary64 → Nat
  | .finite s m e =>
    let sign := if s then twoTo 63 else 0
    if m < twoTo 52 then sign + m
    else sign + (e + 1075).toNat * twoTo 52 + (m - twoTo 52)
  | .infinite s => (if s then twoTo 63 else 0) + 2047 * twoTo 52
  | .nan => 2047 * twoTo 52 + twoTo 51

end Binary64

end Mailroom
