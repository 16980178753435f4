import Mailroom.Yaml.Text

/-!
# From text to tokens

The reader of tokens keeps the columns of the open blocks and the nesting of flow collections. A
block opens where an entry stands further right than its surroundings, and ends where a line starts
further left.

A key is known as one only when its colon is found. So each place where a key could start is
remembered, one for each level of nesting, and the tokens in front of it are put in when the colon
comes. Such a key lies on one line and is not longer than `longestKey`.

A token is settled once no colon can come that puts another one in front of it. Where the text
cannot be read on, only the settled tokens are tokens of the text, and the fault follows them. That
matters because the reader of nodes may find a fault of its own in the settled ones, and that one
comes first.
-/

set_option autoImplicit false

namespace Mailroom.Yaml

def longestKey : Nat := 1024

structure PossibleKey where
  /-- How many tokens stand before it. -/
  tokens : Nat
  /-- Whether nothing but a key can stand here. -/
  required : Bool
  index : Nat
  line : Nat
  column : Nat

def PossibleKey.isStale (k : PossibleKey) (c : Cursor) : Bool :=
  k.line != c.line || longestKey < c.index - k.index

structure Tokenizer where
  cursor : Cursor
  tokens : Array Token := #[]
  flow : Nat := 0
  /-- The column of the innermost block, -1 outside every block. -/
  indent : Int := -1
  outer : List Int := []
  allowKey : Bool := true
  /-- The possible keys by their level of nesting. -/
  keys : List (Nat × PossibleKey) := []

namespace Tokenizer

def push (t : Tokenizer) (token : Token) : Tokenizer := { t with tokens := t.tokens.push token }

def inBlock (t : Tokenizer) : Bool := t.flow == 0

def scan {α : Type} (t : Tokenizer) (step : Scan α) : Except Error (α × Tokenizer) := do
  let (a, cursor) ← step.run t.cursor
  return (a, { t with cursor := cursor })

def pushScan (t : Tokenizer) (step : Scan Token) : Except Error Tokenizer := do
  let (token, t) ← t.scan step
  return t.push token

def pushMark (t : Tokenizer) (width : Nat) (token : Token) : Tokenizer :=
  { t.push token with cursor := t.cursor.skip width }

/-! ## Blocks -/

def endBlocks (column indent : Int) : List Int → Array Token → Int × List Int × Array Token
  | [], tokens => (indent, [], tokens)
  | around :: outer, tokens =>
    if column < indent then endBlocks column around outer (tokens.push .blockEnd)
    else (indent, around :: outer, tokens)

def unwind (t : Tokenizer) (column : Int) : Tokenizer :=
  if t.inBlock then
    let (indent, outer, tokens) := endBlocks column t.indent t.outer t.tokens
    { t with indent := indent, outer := outer, tokens := tokens }
  else t

def openBlock? (t : Tokenizer) (column : Int) : Option Tokenizer :=
  if t.indent < column then some { t with indent := column, outer := t.indent :: t.outer } else none

def openBlock (t : Tokenizer) (token : Token) : Tokenizer :=
  match t.openBlock? t.cursor.column with
  | some opened => opened.push token
  | none => t

/-! ## Possible keys -/

def dropStale (t : Tokenizer) : Except Error Tokenizer :=
  let (stale, live) := t.keys.partition fun k => k.2.isStale t.cursor
  if stale.any (·.2.required) then .error .malformed else .ok { t with keys := live }

def dropKey (t : Tokenizer) : Except Error Tokenizer :=
  let (here, others) := t.keys.partition (·.1 == t.flow)
  if here.any (·.2.required) then .error .malformed else .ok { t with keys := others }

def noteKey (t : Tokenizer) : Except Error Tokenizer :=
  if t.allowKey then do
    let t ← t.dropKey
    let c := t.cursor
    let required := t.inBlock && t.indent == (c.column : Int)
    let key : PossibleKey := ⟨t.tokens.size, required, c.index, c.line, c.column⟩
    return { t with keys := (t.flow, key) :: t.keys }
  else .ok t

def insertAt (t : Tokenizer) (place : Nat) (tokens : Array Token) : Tokenizer :=
  { t with tokens := t.tokens.extract 0 place ++ tokens ++ t.tokens.extract place t.tokens.size }

/-! ## One token -/

/-- Moves to the next token: over spaces, comments and line breaks. After a line break in a block a
key may start. -/
def toNextToken (t : Tokenizer) : Nat → Tokenizer
  | 0 => t
  | n + 1 =>
    let blanks := (t.cursor.rest.takeWhile (· == ' ')).length
    let c := t.cursor.skip blanks
    let c := if c.peek == '#' then c.skip (c.rest.takeWhile (!isLineEnd ·)).length else c
    let t := { t with cursor := c }
    if isBreak c.peek then
      let width := if c.peek == '\r' && c.ahead 1 == '\n' then 2 else 1
      toNextToken { t with cursor := c.skip width, allowKey := t.allowKey || t.inBlock } n
    else t

def skipByteOrderMark (t : Tokenizer) : Tokenizer :=
  if t.cursor.index == 0 && t.cursor.peek == byteOrderMark then
    { t with cursor := t.cursor.next }
  else t

def leaveBlocks (t : Tokenizer) : Except Error Tokenizer := do
  let t ← (t.unwind (-1)).dropKey
  return { t with allowKey := false }

def documentMark (t : Tokenizer) (token : Token) : Except Error Tokenizer := do
  return (← t.leaveBlocks).pushMark 3 token

def flowStart (t : Tokenizer) (token : Token) : Except Error Tokenizer := do
  let t ← t.noteKey
  return { t with flow := t.flow + 1, allowKey := true }.pushMark 1 token

def flowEnd (t : Tokenizer) (token : Token) : Except Error Tokenizer := do
  let t ← t.dropKey
  if t.inBlock then throw .malformed
  return { t with flow := t.flow - 1, allowKey := false }.pushMark 1 token

def flowEntry (t : Tokenizer) : Except Error Tokenizer := do
  let t ← { t with allowKey := true }.dropKey
  return t.pushMark 1 .flowEntry

def blockEntry (t : Tokenizer) : Except Error Tokenizer := do
  if t.inBlock && !t.allowKey then throw .malformed
  let t := if t.inBlock then t.openBlock .blockSequenceStart else t
  let t ← { t with allowKey := true }.dropKey
  return t.pushMark 1 .blockEntry

def key (t : Tokenizer) : Except Error Tokenizer := do
  if t.inBlock && !t.allowKey then throw .malformed
  let t := if t.inBlock then t.openBlock .blockMappingStart else t
  let t ← { t with allowKey := t.inBlock }.dropKey
  return t.pushMark 1 .key

/-- Reads the colon of a value. What stands before it on this level may turn out to be its key. -/
def value (t : Tokenizer) : Except Error Tokenizer := do
  match t.keys.find? (·.1 == t.flow) with
  | some (_, k) =>
    let t := { t with keys := t.keys.filter (·.1 != t.flow), allowKey := false }
    let opened := if t.inBlock then t.openBlock? k.column else none
    let t := match opened with
      | some t => t.insertAt k.tokens #[.blockMappingStart, .key]
      | none => t.insertAt k.tokens #[.key]
    return t.pushMark 1 .value
  | none =>
    if t.inBlock && !t.allowKey then throw .malformed
    let t := if t.inBlock then t.openBlock .blockMappingStart else t
    let t ← { t with allowKey := t.inBlock }.dropKey
    return t.pushMark 1 .value

/-- Reads something that may be a key by itself: an alias, an anchor, a tag or a quoted scalar. -/
def simple (t : Tokenizer) (step : Scan Token) : Except Error Tokenizer := do
  let t ← t.noteKey
  ({ t with allowKey := false }).pushScan step

def blockScalar (t : Tokenizer) (folded : Bool) : Except Error Tokenizer := do
  let t ← { t with allowKey := true }.dropKey
  t.pushScan (return .scalar (← Scan.blockScalar folded t.indent) false)

/-- Reads a plain scalar. After it a key may start if it is followed by a new line. -/
def plain (t : Tokenizer) : Except Error Tokenizer := do
  let t ← t.noteKey
  let ((text, crosses), t) ← t.scan (Scan.plainScalar (!t.inBlock) (t.indent + 1))
  return { t.push (.scalar text true) with allowKey := crosses }

/-- The characters that cannot start a plain scalar by themselves. -/
def indicators : List Char := "-?:,[]\x7b\x7d#&*!|>\x27\x22%@\x60".toList

def startsPlain (t : Tokenizer) : Bool :=
  let c := t.cursor.peek
  !(isBlankOrEnd c || indicators.contains c) ||
    (!isBlankOrEnd (t.cursor.ahead 1) && (c == '-' || (t.inBlock && (c == '?' || c == ':'))))

def token (t : Tokenizer) : Except Error Tokenizer :=
  let c := t.cursor
  let blankAfter := isBlankOrEnd (c.ahead 1)
  let quoted double : Scan Token := return .scalar (← Scan.quotedScalar double) false
  if c.column == 0 && c.peek == '%' then do (← t.leaveBlocks).pushScan Scan.directive
  else if c.column == 0 && c.atMark '-' then t.documentMark .documentStart
  else if c.column == 0 && c.atMark '.' then t.documentMark .documentEnd
  else match c.peek with
    | '[' => t.flowStart .flowSequenceStart
    | '\x7b' => t.flowStart .flowMappingStart
    | ']' => t.flowEnd .flowSequenceEnd
    | '\x7d' => t.flowEnd .flowMappingEnd
    | ',' => t.flowEntry
    | '*' => t.simple (return .alias (← Scan.anchorName))
    | '&' => t.simple (return .anchor (← Scan.anchorName))
    | '!' => t.simple Scan.tag
    | '\x27' => t.simple (quoted false)
    | '\x22' => t.simple (quoted true)
    | ch =>
      if ch == '-' && blankAfter then t.blockEntry
      else if ch == '?' && (!t.inBlock || blankAfter) then t.key
      else if ch == ':' && (!t.inBlock || blankAfter) then t.value
      else if ch == '|' && t.inBlock then t.blockScalar false
      else if ch == '>' && t.inBlock then t.blockScalar true
      else if t.startsPlain then t.plain
      else .error .malformed

/-! ## All tokens -/

def toToken (t : Tokenizer) : Except Error Tokenizer := do
  let t := t.skipByteOrderMark
  let t ← (t.toNextToken (t.cursor.remaining + 1)).dropStale
  return t.unwind t.cursor.column

/-- How many tokens are settled: those before every place where a key may still have started. -/
def settled (t : Tokenizer) : Nat :=
  let live := t.keys.filter fun k => !k.2.isStale t.cursor
  live.foldl (fun least k => min least k.2.tokens) t.tokens.size

def brokenOff (t : Tokenizer) (e : Error) : Array Token :=
  (t.tokens.extract 0 t.settled).push (.unreadable e)

def run : Nat → Tokenizer → Array Token
  | 0, t => t.brokenOff .malformed
  | n + 1, t =>
    match t.toToken with
    | .error e => t.brokenOff e
    | .ok arrived =>
      let atEnd := arrived.cursor.rest.isEmpty
      match if atEnd then arrived.leaveBlocks else arrived.token with
      | .error e => t.brokenOff e
      | .ok next => if atEnd then next.tokens else run n next

end Tokenizer

def tokens (text : String) : List Token :=
  let cs := text.toList
  if cs.all isAllowed then (Tokenizer.run (cs.length + 1) { cursor := .start cs }).toList
  else [.unreadable .malformed]

end Mailroom.Yaml
