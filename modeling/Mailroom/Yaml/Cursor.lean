import Mailroom.Data.ScalarError

/-!
# Reading YAML character by character

A cursor stands at a place of a text and knows its line and column, because in YAML the column
decides what belongs together. `Scan` is a reading step: it moves the cursor and may fail.

The end of the text reads as the null character, which no YAML text contains. So looking ahead needs
no case for the end, and the classes below say whether they have the end in them.

Two kinds of things can be wrong with a text (`Error`). It is malformed, or there is a scalar in it
that cannot be converted; the second is told apart because it is reported in another way. Where a
text is malformed is not recorded.
-/

set_option autoImplicit false

namespace Mailroom.Yaml

inductive Error where
  /-- The text is not well formed, or refers to something that it does not define. -/
  | malformed
  | scalar (e : ScalarError)
  deriving DecidableEq, Repr

def isAllowed (c : Char) : Bool :=
  let n := c.toNat
  n == 0x09 || n == 0x0A || n == 0x0D || (0x20 ≤ n && n ≤ 0x7E) || n == 0x85 ||
    (0xA0 ≤ n && n ≤ 0xD7FF) || (0xE000 ≤ n && n ≤ 0xFFFD) || 0x10000 ≤ n

def endOfText : Char := '\x00'

def isBreak (c : Char) : Bool :=
  c == '\n' || c == '\r' || c == '\u0085' || c == '\u2028' || c == '\u2029'

def isLineEnd (c : Char) : Bool := isBreak c || c == endOfText

def isSpaceOrEnd (c : Char) : Bool := c == ' ' || isLineEnd c

def isBlankOrEnd (c : Char) : Bool := c == '\t' || isSpaceOrEnd c

/-- The mark that may stand at the start of a text and takes no column. -/
def byteOrderMark : Char := '\ufeff'

structure Cursor where
  rest : List Char
  size : Nat
  index : Nat
  line : Nat
  column : Nat

namespace Cursor

def start (text : List Char) : Cursor := ⟨text, text.length, 0, 0, 0⟩

def remaining (c : Cursor) : Nat := c.size - c.index

def ahead (c : Cursor) (n : Nat) : Char := c.rest.getD n endOfText

def peek (c : Cursor) : Char := c.ahead 0

/-- The place after the character at the cursor. A carriage return before a line feed does not end
the line. -/
def next (c : Cursor) : Cursor :=
  match c.rest with
  | [] => c
  | ch :: rest =>
    let c' := { c with rest := rest, index := c.index + 1 }
    if isBreak ch && !(ch == '\r' && rest.head? == some '\n') then
      { c' with line := c.line + 1, column := 0 }
    else if ch == byteOrderMark then c'
    else { c' with column := c.column + 1 }

def skip (c : Cursor) : Nat → Cursor
  | 0 => c
  | n + 1 => c.next.skip n

/-- Whether the line starts with a document mark: three characters of a kind and then a blank. -/
def atMark (c : Cursor) (mark : Char) : Bool :=
  c.peek == mark && c.ahead 1 == mark && c.ahead 2 == mark && isBlankOrEnd (c.ahead 3)

def atDocumentMark (c : Cursor) : Bool := c.atMark '-' || c.atMark '.'

end Cursor

abbrev Scan (α : Type) := StateT Cursor (Except Error) α

namespace Scan

def fail {α : Type} : Scan α := throw .malformed

def ahead (n : Nat) : Scan Char := return (← get).ahead n

def peek : Scan Char := ahead 0

def skip (n : Nat) : Scan Unit := modify (·.skip n)

def takeRun (p : Char → Bool) : Scan (List Char) := do
  let run := (← get).rest.takeWhile p
  skip run.length
  return run

def expect (p : Char → Bool) : Scan Unit := do
  unless p (← peek) do fail

/-- Reads a line break, if there is one. All but the two Unicode separators become a line feed. -/
def lineBreak : Scan (List Char) := do
  let c ← get
  let ch := c.peek
  if ch == '\u2028' || ch == '\u2029' then
    skip 1
    return [ch]
  else if isBreak ch then
    skip (if ch == '\r' && c.ahead 1 == '\n' then 2 else 1)
    return ['\n']
  else return []

def remaining : Scan Nat := return (← get).remaining

def restOfLine : Scan Unit := do
  let _ ← takeRun (· == ' ')
  if (← peek) == '#' then
    let _ ← takeRun (!isLineEnd ·)
  expect isLineEnd
  let _ ← lineBreak

/-- The letters of anchors, aliases, directives and tag handles. -/
def isWordChar (c : Char) : Bool :=
  ('0' ≤ c && c ≤ '9') || ('A' ≤ c && c ≤ 'Z') || ('a' ≤ c && c ≤ 'z') || c == '-' || c == '_'

def hexValue? (c : Char) : Option Nat :=
  if '0' ≤ c && c ≤ '9' then some (c.toNat - '0'.toNat)
  else if 'a' ≤ c && c ≤ 'f' then some (c.toNat - 'a'.toNat + 10)
  else if 'A' ≤ c && c ≤ 'F' then some (c.toNat - 'A'.toNat + 10)
  else none

def hexNumber (width : Nat) : Scan Nat := do
  let digits := ((← get).rest.take width).filterMap hexValue?
  if digits.length < width then fail
  skip width
  return digits.foldl (fun n d => n * 16 + d) 0

end Scan

end Mailroom.Yaml
