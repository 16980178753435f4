import Mailroom.Yaml.Token

/-!
# The text of a scalar

A scalar is written plain, in quotes, or as a block of lines. Each way has its own rules for where
the text ends and for what becomes of its line breaks. Lines of a plain or quoted scalar are folded:
one line break is a space, and of several the first is dropped.

Only in double quotes are there escapes, so only there can a text have code points that are no
characters. An escape can also name a number that is no code point at all, which is the one fault
here that is not malformed text.

Every step of a scalar takes at least one character, so what remains of the text bounds the
recursions.
-/

set_option autoImplicit false

namespace Mailroom.Yaml

namespace Scan

/-- What a line break and the breaks that follow it become when lines are folded. -/
def fold (first breaks : List Char) : List Char :=
  (if first != ['\n'] then first else if breaks.isEmpty then [' '] else []) ++ breaks

/-! ## Plain scalars -/

def plainRun (flow : Bool) : List Char → List Char
  | [] => []
  | c :: cs =>
    let next := cs.headD endOfText
    if isBlankOrEnd c then []
    else if c == ':' && (isBlankOrEnd next || (flow && ",[]\x7b\x7d".toList.contains next)) then []
    else if flow && ",?[]\x7b\x7d".toList.contains c then []
    else c :: plainRun flow cs

structure Gap where
  /-- What joins the next part; nothing if there is no next part. -/
  text : List Char
  crossesLine : Bool

/-- Reads line breaks and spaces up to a document mark, at which there is no result. -/
def gapBreaks : Nat → Scan (Option (List Char))
  | 0 => return some []
  | n + 1 => do
    let c ← peek
    if c == ' ' then
      skip 1
      gapBreaks n
    else if isBreak c then
      let first ← lineBreak
      if (← get).atDocumentMark then return none
      return (← gapBreaks n).map (first ++ ·)
    else return some []

def plainGap : Scan Gap := do
  let spaces ← takeRun (· == ' ')
  if isBreak (← peek) then
    let first ← lineBreak
    if (← get).atDocumentMark then return ⟨[], true⟩
    match ← gapBreaks (← remaining) with
    | none => return ⟨[], true⟩
    | some breaks => return ⟨fold first breaks, true⟩
  else return ⟨spaces, false⟩

/-- Reads the parts of a plain scalar, each after the blanks that join it. The flag says whether the
scalar is followed by a new line. -/
def plainParts (flow : Bool) (indent : Int) : Nat → Gap → Scan (List Char × Bool)
  | 0, gap => return ([], gap.crossesLine)
  | n + 1, gap => do
    let run := plainRun flow (← get).rest
    if (← peek) == '#' || run.isEmpty then return ([], gap.crossesLine)
    skip run.length
    let next ← plainGap
    let c ← get
    if next.text.isEmpty || c.peek == '#' || (!flow && (c.column : Int) < indent) then
      return (gap.text ++ run, next.crossesLine)
    let (more, crosses) ← plainParts flow indent n next
    return (gap.text ++ run ++ more, crosses)

/-- Reads a plain scalar. In a block it ends at a line that starts left of `indent`. -/
def plainScalar (flow : Bool) (indent : Int) : Scan (List Text.Code × Bool) := do
  let (cs, crosses) ← plainParts flow indent ((← remaining) + 1) ⟨[], false⟩
  return (cs.map .char, crosses)

/-! ## Quoted scalars -/

/-- Reads the empty lines after a line break in quotes, and the blanks before the next text. A
document mark may not stand there. -/
def quotedBreaks : Nat → Scan (List Char)
  | 0 => return []
  | n + 1 => do
    if (← get).atDocumentMark then fail
    let _ ← takeRun fun c => c == ' ' || c == '\t'
    if isBreak (← peek) then
      let first ← lineBreak
      return first ++ (← quotedBreaks n)
    else return []

def quotedGap : Scan (List Char) := do
  let blanks ← takeRun fun c => c == ' ' || c == '\t'
  let c ← peek
  if c == endOfText then fail
  if isBreak c then
    let first ← lineBreak
    return fold first (← quotedBreaks ((← remaining) + 1))
  else return blanks

def escaped? : Char → Option Char
  | '0' => some '\x00'
  | 'a' => some '\x07'
  | 'b' => some '\x08'
  | 't' => some '\t'
  | '\t' => some '\t'
  | 'n' => some '\n'
  | 'v' => some '\x0b'
  | 'f' => some '\x0c'
  | 'r' => some '\r'
  | 'e' => some '\x1b'
  | ' ' => some ' '
  | '\x22' => some '\x22'
  | '\\' => some '\\'
  | '/' => some '/'
  | 'N' => some '\u0085'
  | '_' => some '\u00a0'
  | 'L' => some '\u2028'
  | 'P' => some '\u2029'
  | _ => none

def escapeWidth? : Char → Option Nat
  | 'x' => some 2
  | 'u' => some 4
  | 'U' => some 8
  | _ => none

def codePoint (n : Nat) : Except Error Text.Code :=
  if 0x80000000 ≤ n then .error (.scalar .codeOverflow)
  else if 0x10FFFF < n then .error (.scalar .codePoint)
  else .ok (.ofNat n)

def escape : Scan (List Text.Code) := do
  let c ← peek
  match escaped? c, escapeWidth? c with
  | some d, _ =>
    skip 1
    return [.char d]
  | none, some width =>
    skip 1
    let n ← hexNumber width
    return [← codePoint n]
  | none, none =>
    if isBreak c then
      let _ ← lineBreak
      return (← quotedBreaks ((← remaining) + 1)).map .char
    else fail

def quotedRun (double : Bool) : Nat → Scan (List Text.Code)
  | 0 => return []
  | n + 1 => do
    let chars ← takeRun fun c => !(isBlankOrEnd c || c == '\x27' || c == '\x22' || c == '\\')
    let run := chars.map Text.Code.char
    let c ← peek
    if !double && c == '\x27' && (← ahead 1) == '\x27' then
      skip 2
      return run ++ .char '\x27' :: (← quotedRun double n)
    else if (double && c == '\x27') || (!double && (c == '\x22' || c == '\\')) then
      skip 1
      return run ++ .char c :: (← quotedRun double n)
    else if double && c == '\\' then
      skip 1
      let codes ← escape
      return run ++ codes ++ (← quotedRun double n)
    else return run

def quotedParts (double : Bool) : Nat → Scan (List Text.Code)
  | 0 => fail
  | n + 1 => do
    let run ← quotedRun double ((← remaining) + 1)
    if (← peek) == (if double then '\x22' else '\x27') then
      skip 1
      return run
    let gap ← quotedGap
    return run ++ gap.map .char ++ (← quotedParts double n)

def quotedScalar (double : Bool) : Scan (List Text.Code) := do
  skip 1
  quotedParts double ((← remaining) + 1)

/-! ## Block scalars -/

inductive Chomping where
  | strip
  | clip
  | keep
  deriving DecidableEq, Repr

def chomping? : Scan (Option Chomping) := do
  match ← peek with
  | '+' =>
    skip 1
    return some .keep
  | '-' =>
    skip 1
    return some .strip
  | _ => return none

def increment? : Scan (Option Nat) := do
  let c ← peek
  if '0' ≤ c && c ≤ '9' then
    if c == '0' then fail
    skip 1
    return some (c.toNat - '0'.toNat)
  else return none

/-- Reads the marks at the head of a block scalar, which stand in either order. -/
def blockHead : Scan (Chomping × Option Nat) := do
  let before ← chomping?
  let increment ← increment?
  let after ← if before.isNone && increment.isSome then chomping? else pure none
  expect isSpaceOrEnd
  restOfLine
  return ((before.or after).getD .clip, increment)

/-- Reads the empty lines in front of a block scalar, and finds the column of its text: that of the
longest run of spaces. -/
def leadingBreaks : Nat → Nat → Scan (List Char × Nat)
  | 0, deepest => return ([], deepest)
  | n + 1, deepest => do
    let c ← peek
    if c == ' ' then
      skip 1
      leadingBreaks n (max deepest (← get).column)
    else if isBreak c then
      let first ← lineBreak
      let (more, column) ← leadingBreaks n deepest
      return (first ++ more, column)
    else return ([], deepest)

def skipToColumn (indent : Nat) : Scan Unit := do
  let c ← get
  skip ((c.rest.take (indent - c.column)).takeWhile (· == ' ')).length

def blockBreaks (indent : Nat) : Nat → Scan (List Char)
  | 0 => return []
  | n + 1 => do
    skipToColumn indent
    if isBreak (← peek) then
      let first ← lineBreak
      return first ++ (← blockBreaks indent n)
    else return []

def atBlockLine (indent : Nat) : Scan Bool := do
  let c ← get
  return c.column == indent && c.peek != endOfText

structure BlockLines where
  text : List Char
  lastBreak : List Char
  breaks : List Char

/-- Reads the lines of a block scalar. Two lines that start with text are folded into one. -/
def blockLines (folded : Bool) (indent : Nat) : Nat → List Char → List Char → Scan BlockLines
  | 0, lastBreak, breaks => return ⟨[], lastBreak, breaks⟩
  | n + 1, lastBreak, breaks => do
    if !(← atBlockLine indent) then return ⟨[], lastBreak, breaks⟩
    let startsWithText := !((← peek) == ' ' || (← peek) == '\t')
    let line ← takeRun (!isLineEnd ·)
    let ending ← lineBreak
    let gaps ← blockBreaks indent ((← remaining) + 1)
    let next ← peek
    let joint :=
      if !(← atBlockLine indent) then []
      else if folded && ending == ['\n'] && startsWithText && !(next == ' ' || next == '\t') then
        if gaps.isEmpty then [' '] else []
      else ending
    let more ← blockLines folded indent n ending gaps
    return { more with text := breaks ++ line ++ joint ++ more.text }

def blockScalar (folded : Bool) (outer : Int) : Scan (List Text.Code) := do
  skip 1
  let (chomping, increment) ← blockHead
  let least := (max (outer + 1) 1).toNat
  let fuel := (← remaining) + 1
  let (breaks, indent) ← match increment with
    | none => do
      let (breaks, deepest) ← leadingBreaks fuel 0
      pure (breaks, max least deepest)
    | some n => do
      let indent := least + n - 1
      pure (← blockBreaks indent fuel, indent)
  let lines ← blockLines folded indent fuel [] breaks
  let ending := match chomping with
    | .strip => []
    | .clip => lines.lastBreak
    | .keep => lines.lastBreak ++ lines.breaks
  return (lines.text ++ ending).map .char

end Scan

end Mailroom.Yaml
