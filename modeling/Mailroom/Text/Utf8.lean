import Mailroom.Text.Quoted

/-!
# Reading UTF-8

`decodeUtf8` turns bytes into characters, or says where the first ill-formed sequence stands and
what is wrong with it. A sequence is rejected at the first byte that cannot continue it, so the
bytes blamed are the longest start of a well-formed sequence.

The decoder goes through the bytes once. Between two characters nothing is pending; inside a
sequence it carries the code point so far and the range of the next byte. Only the range of the
second byte depends on the first: it is narrower after four of them, which rules out those codes
that have a shorter form, the surrogates and what lies beyond the last code point. No decoded code
has to be looked at again.
-/

set_option autoImplicit false

namespace Mailroom.Text

inductive Utf8Fault where
  | invalidStart
  | invalidContinuation
  | unexpectedEnd
  deriving DecidableEq, Repr

/-- An ill-formed sequence: the bytes from `start` on, `length` of them, the first of which is
`first`. -/
structure Utf8Error where
  start : Nat
  length : Nat
  first : UInt8
  fault : Utf8Fault
  deriving DecidableEq, Repr

/-- The bytes that may follow the first byte of a sequence: the range of the second byte, and how
many bytes follow in all. `none` for a byte that starts no sequence of several bytes. -/
def followers? (b : UInt8) : Option (UInt8 × UInt8 × Nat) :=
  if b < 0xC2 then none
  else if b < 0xE0 then some (0x80, 0xBF, 1)
  else if b = 0xE0 then some (0xA0, 0xBF, 2)
  else if b = 0xED then some (0x80, 0x9F, 2)
  else if b < 0xF0 then some (0x80, 0xBF, 2)
  else if b = 0xF0 then some (0x90, 0xBF, 3)
  else if b < 0xF4 then some (0x80, 0xBF, 3)
  else if b = 0xF4 then some (0x80, 0x8F, 3)
  else none

def extendCode (code : Nat) (b : UInt8) : Nat := code * 64 + (b.toNat - 0x80)

/-- Where the decoder stands in a sequence: the code point so far, the range of the next byte, how
many bytes are still missing, how many have been read, and the first of them. -/
structure Utf8Pending where
  code : Nat
  low : UInt8
  high : UInt8
  missing : Nat
  taken : Nat
  first : UInt8

/-- Decodes from an offset on; `pending` is the sequence that has been started, if any. -/
def decodeFrom : Nat → Option Utf8Pending → List UInt8 → Except Utf8Error (List Char)
  | _, none, [] => .ok []
  | offset, some p, [] => .error ⟨offset - p.taken, p.taken, p.first, .unexpectedEnd⟩
  | offset, none, b :: bs =>
    if b < 0x80 then (Char.ofNat b.toNat :: ·) <$> decodeFrom (offset + 1) none bs
    else
      match followers? b with
      | none => .error ⟨offset, 1, b, .invalidStart⟩
      | some (low, high, missing) =>
        let lead := if missing = 1 then 0xC0 else if missing = 2 then 0xE0 else 0xF0
        decodeFrom (offset + 1) (some ⟨b.toNat - lead, low, high, missing, 1, b⟩) bs
  | offset, some p, b :: bs =>
    if p.low ≤ b && b ≤ p.high then
      let code := extendCode p.code b
      if p.missing ≤ 1 then (Char.ofNat code :: ·) <$> decodeFrom (offset + 1) none bs
      else
        decodeFrom (offset + 1)
          (some { p with code := code, low := 0x80, high := 0xBF, missing := p.missing - 1,
                         taken := p.taken + 1 }) bs
    else .error ⟨offset - p.taken, p.taken, p.first, .invalidContinuation⟩

def decodeUtf8 (bs : List UInt8) : Except Utf8Error (List Char) := decodeFrom 0 none bs

def Utf8Fault.message : Utf8Fault → String
  | .invalidStart => "invalid start byte"
  | .invalidContinuation => "invalid continuation byte"
  | .unexpectedEnd => "unexpected end of data"

/-- One byte is shown with its value, several by the positions of the first and the last. -/
def Utf8Error.message (e : Utf8Error) : String :=
  if e.length = 1 then
    "'utf-8' codec can't decode byte 0x" ++ String.ofList (hexPadded 2 e.first.toNat) ++
      s!" in position {e.start}: " ++ e.fault.message
  else
    "'utf-8' codec can't decode bytes in position " ++
      s!"{e.start}-{e.start + e.length - 1}: " ++ e.fault.message

end Mailroom.Text
