import Mailroom.Text.Space

/-!
# Files of variables

A file of variables has a statement on each line: a name, an equals sign and a value. The word
`export` may stand before it. The value stands in quotes, and may then go over several lines, or it
goes to the end of the line or to a comment. A name without an equals sign is declared without a
value.

A statement that does not have this form is passed over: what is left of its line is skipped and
reading goes on after it. Where it is skipped from depends on how far it was understood, so each
step of reading says what it leaves also when it fails (`Read`). A quote that is never closed leaves
everything from the quote on.

Of escapes, a text in quotation marks has the usual ones for control characters, and a text in
apostrophes has those of the backslash and the apostrophe only. A text without quotes has none. A
statement has the number of the line at which reading stood before it, so the blank lines in front
of it are counted as part of it.
-/

set_option autoImplicit false

namespace Mailroom.EnvFile

open Text

inductive Statement where
  | binding (name : String) (value : Option String)
  | blank
  /-- A statement that is not understood, with the line on which it is looked for. -/
  | unparsable (line : Nat)
  deriving DecidableEq, Repr

def isInlineBlank (c : Char) : Bool := isBlank c && c != '\n' && c != '\r'

def isLineEnd (c : Char) : Bool := c == '\n' || c == '\r'

def isNameChar (c : Char) : Bool := !(c == '=' || c == '#' || isBlank c)

/-- What follows the word `export` and blanks, or everything if it does not start with them. -/
def dropExport (cs : List Char) : List Char :=
  match cs with
  | 'e' :: 'x' :: 'p' :: 'o' :: 'r' :: 't' :: rest =>
    if (rest.head?.map isInlineBlank).getD false then rest.dropWhile isInlineBlank else cs
  | _ => cs

/-- What a step has read, or nothing if it cannot read on, and what it leaves. -/
structure Read (α : Type) where
  got : Option α
  rest : List Char

/-- Reads a name. A comment has none, which is a success too. -/
def readName : List Char → Read (Option String)
  | '#' :: cs => ⟨some none, '#' :: cs⟩
  | '\x27' :: cs =>
    let name := cs.takeWhile (· != '\x27')
    match cs.dropWhile (· != '\x27') with
    | _ :: rest =>
      if name.isEmpty then ⟨none, '\x27' :: cs⟩ else ⟨some (some (String.ofList name)), rest⟩
    | [] => ⟨none, '\x27' :: cs⟩
  | cs =>
    let name := cs.takeWhile isNameChar
    if name.isEmpty then ⟨none, cs⟩
    else ⟨some (some (String.ofList name)), cs.dropWhile isNameChar⟩

/-! ## Values in quotes -/

/-- The text in quotes after the first quote, and what follows the closing one. A backslash keeps
the character after it from closing the text. -/
def quotedText? (quote : Char) : List Char → Option (List Char × List Char)
  | [] => none
  | '\\' :: c :: cs => (quotedText? quote cs).map fun (text, rest) => ('\\' :: c :: text, rest)
  | c :: cs =>
    if c == quote then some ([], cs)
    else (quotedText? quote cs).map fun (text, rest) => (c :: text, rest)

def doubleEscape? : Char → Option Char
  | '\\' => some '\\'
  | '\x27' => some '\x27'
  | '\x22' => some '\x22'
  | 'a' => some '\x07'
  | 'b' => some '\x08'
  | 'f' => some '\x0c'
  | 'n' => some '\n'
  | 'r' => some '\r'
  | 't' => some '\t'
  | 'v' => some '\x0b'
  | _ => none

def singleEscape? : Char → Option Char
  | '\\' => some '\\'
  | '\x27' => some '\x27'
  | _ => none

/-- A text with its escapes replaced. A backslash that starts none stands for itself. -/
def unescape (escape? : Char → Option Char) : List Char → List Char
  | '\\' :: c :: cs =>
    match escape? c with
    | some d => d :: unescape escape? cs
    | none => '\\' :: unescape escape? (c :: cs)
  | c :: cs => c :: unescape escape? cs
  | [] => []

def readQuoted (quote : Char) (escape? : Char → Option Char) (cs : List Char) : Read String :=
  match quotedText? quote (cs.drop 1) with
  | some (text, rest) => ⟨some (String.ofList (unescape escape? text)), rest⟩
  | none => ⟨none, cs⟩

/-! ## Values without quotes -/

/-- The text before a comment: a number sign with a blank before it. -/
def beforeComment : List Char → List Char
  | c :: '#' :: cs => if isBlank c then [] else c :: beforeComment ('#' :: cs)
  | c :: cs => c :: beforeComment cs
  | [] => []

def readUnquoted (cs : List Char) : Read String :=
  let line := cs.takeWhile (!isLineEnd ·)
  let text := ((beforeComment line).reverse.dropWhile isBlank).reverse
  ⟨some (String.ofList text), cs.dropWhile (!isLineEnd ·)⟩

def readValue : List Char → Read String
  | [] => ⟨some "", []⟩
  | c :: cs =>
    if c == '\x27' then readQuoted '\x27' singleEscape? (c :: cs)
    else if c == '\x22' then readQuoted '\x22' doubleEscape? (c :: cs)
    else if isLineEnd c then ⟨some "", c :: cs⟩
    else readUnquoted (c :: cs)

/-! ## Statements -/

/-- Whether a comment starts after a blank, so that the value before it is empty. -/
def startsComment (cs : List Char) : Bool :=
  (cs.head?.map isInlineBlank).getD false && (cs.dropWhile isInlineBlank).head? == some '#'

def readAssignment (cs : List Char) : Read (Option String) :=
  match cs with
  | '=' :: rest =>
    if startsComment rest then ⟨some (some ""), rest⟩
    else
      let value := readValue (rest.dropWhile isInlineBlank)
      ⟨value.got.map some, value.rest⟩
  | _ => ⟨some none, cs⟩

def dropComment (cs : List Char) : List Char :=
  match cs.dropWhile isInlineBlank with
  | '#' :: rest => rest.dropWhile (!isLineEnd ·)
  | _ => cs

def afterLineEnd? (cs : List Char) : Option (List Char) :=
  match cs.dropWhile isInlineBlank with
  | [] => some []
  | '\r' :: '\n' :: rest => some rest
  | c :: rest => if isLineEnd c then some rest else none

def skipLine (cs : List Char) : List Char := (cs.dropWhile (!isLineEnd ·)).drop 1

def readStatement (line : Nat) (cs : List Char) : Statement × List Char :=
  let name := readName (dropExport cs)
  match name.got with
  | none => (.unparsable line, skipLine name.rest)
  | some name? =>
    let value := readAssignment (name.rest.dropWhile isInlineBlank)
    match value.got with
    | none => (.unparsable line, skipLine value.rest)
    | some value? =>
      let rest := dropComment value.rest
      match afterLineEnd? rest with
      | none => (.unparsable line, skipLine rest)
      | some rest =>
        match name? with
        | some n => (.binding n value?, rest)
        | none => (.blank, rest)

def linesRead (before after : List Char) : Nat := before.count '\n' - after.count '\n'

/-- Reads statements. The blanks before a statement count as part of it. -/
def readStatements : Nat → Nat → List Char → List Statement
  | 0, _, _ => []
  | fuel + 1, line, cs =>
    match cs.dropWhile isBlank with
    | [] => []
    | start =>
      let (s, rest) := readStatement line start
      s :: readStatements fuel (line + linesRead cs rest) rest

def dropByteOrderMark : List Char → List Char
  | '\ufeff' :: cs => cs
  | cs => cs

def statements (text : String) : List Statement :=
  readStatements (text.length + 1) 1 (dropByteOrderMark text.toList)

end Mailroom.EnvFile
