import Mailroom.Text.Utf8
import Mailroom.Yaml.Cursor

/-!
# Tokens

A YAML text is read as a sequence of tokens. Indentation has become tokens of its own: a block
collection has a start and an end like a flow collection. The end of the text is the end of the
sequence, and so is a place from which the text cannot be read on.

Here are the tokens that are read without regard to what stands around them: anchors, tags and
directives. A tag may have characters in it that are written by their bytes, which have to be UTF-8.
The number of a version has a bound on its digits like any decimal numeral, though no more than its
first part is ever looked at.
-/

set_option autoImplicit false

namespace Mailroom.Yaml

inductive Directive where
  | version (major : Nat)
  | tagHandle (handle expansion : String)
  | other
  deriving DecidableEq, Repr

inductive Token where
  | directive (d : Directive)
  | documentStart
  | documentEnd
  | blockSequenceStart
  | blockMappingStart
  | blockEnd
  | flowSequenceStart
  | flowSequenceEnd
  | flowMappingStart
  | flowMappingEnd
  | blockEntry
  | flowEntry
  | key
  | value
  | alias (name : String)
  | anchor (name : String)
  | tag (handle : Option String) (suffix : String)
  | scalar (text : List Text.Code) (plain : Bool)
  /-- The text cannot be read on from here. -/
  | unreadable (e : Error)
  deriving DecidableEq, Repr

namespace Scan

def anchorName : Scan String := do
  skip 1
  let name ← takeRun isWordChar
  if name.isEmpty then fail
  expect fun c => isBlankOrEnd c || "?:,]\x7d%@\x60".toList.contains c
  return String.ofList name

def versionNumber : Scan Nat := do
  let digits ← takeRun fun c => '0' ≤ c && c ≤ '9'
  if digits.isEmpty then fail
  match Text.readInteger 10 digits with
  | .ok n => return n.toNat
  | .error e => throw (.scalar (.ofNumeral 10 (digits.map .char) e))

/-- Reads the handle of a tag: `!`, `!!`, or a word between two marks. -/
def tagHandle : Scan String := do
  expect (· == '!')
  if (← ahead 1) == ' ' then
    skip 1
    return "!"
  else
    let word := ((← get).rest.drop 1).takeWhile isWordChar
    skip (word.length + 1)
    expect (· == '!')
    skip 1
    return String.ofList ('!' :: word ++ ['!'])

def isTagChar (c : Char) : Bool :=
  ('0' ≤ c && c ≤ '9') || ('A' ≤ c && c ≤ 'Z') || ('a' ≤ c && c ≤ 'z') ||
    "-;/?:@&=+$,_.!~*\x27()[]".toList.contains c

def percentBytes : Nat → Scan (List UInt8)
  | 0 => return []
  | n + 1 => do
    if (← peek) == '%' then
      skip 1
      let code ← hexNumber 2
      return UInt8.ofNat code :: (← percentBytes n)
    else return []

def tagParts : Nat → Scan (List Char)
  | 0 => return []
  | n + 1 => do
    let run ← takeRun isTagChar
    if (← peek) == '%' then
      match Text.decodeUtf8 (← percentBytes (← remaining)) with
      | .ok cs => return run ++ cs ++ (← tagParts n)
      | .error _ => fail
    else return run

def tagText : Scan String := do
  let c ← peek
  unless isTagChar c || c == '%' do fail
  return String.ofList (← tagParts ((← remaining) + 1))

def tag : Scan Token := do
  let c ← ahead 1
  let token ←
    if c == '<' then do
      skip 2
      let suffix ← tagText
      expect (· == '>')
      skip 1
      pure (Token.tag none suffix)
    else if isBlankOrEnd c then do
      skip 1
      pure (Token.tag none "!")
    else do
      let word := ((← get).rest.drop 1).takeWhile fun d => !isSpaceOrEnd d
      let handle ← if word.contains '!' then tagHandle else do skip 1; pure "!"
      pure (Token.tag (some handle) (← tagText))
  expect isSpaceOrEnd
  return token

def directive : Scan Token := do
  skip 1
  let name ← takeRun isWordChar
  if name.isEmpty then fail
  expect isSpaceOrEnd
  let d ←
    if String.ofList name = "YAML" then do
      let _ ← takeRun (· == ' ')
      let major ← versionNumber
      expect (· == '.')
      skip 1
      let _ ← versionNumber
      expect isSpaceOrEnd
      pure (Directive.version major)
    else if String.ofList name = "TAG" then do
      let _ ← takeRun (· == ' ')
      let handle ← tagHandle
      expect (· == ' ')
      let _ ← takeRun (· == ' ')
      let expansion ← tagText
      expect isSpaceOrEnd
      pure (Directive.tagHandle handle expansion)
    else do
      let _ ← takeRun (!isLineEnd ·)
      pure Directive.other
  restOfLine
  return .directive d

end Scan

end Mailroom.Yaml
