import Mailroom.Text.Space

/-!
# Lines

A text is cut into lines at every line break, and a carriage return followed by a line feed is one
break. A break ends a line rather than separating two, so a text that ends in one has no empty line
after it. `joinLines` goes the other way and ends every line with a line feed.

`unifyNewlines` is what reading a text file does to line breaks: both forms of carriage return
become a line feed. It does not change the lines.

The sources of programs and levels are both read through `sourceLines`. Blanks at the ends of a line
and blank lines are not seen there, but a line keeps the number that it has among all lines, since
this is the number that a message names.
-/

set_option autoImplicit false

namespace Mailroom.Text

def isLineBreak (c : Char) : Bool :=
  let n := c.toNat
  (0x0A ≤ n && n ≤ 0x0D) || (0x1C ≤ n && n ≤ 0x1E) || n == 0x85 || n == 0x2028 || n == 0x2029

def lineChars : List Char → List (List Char)
  | [] => []
  | '\r' :: '\n' :: cs => [] :: lineChars cs
  | c :: cs =>
    if isLineBreak c then [] :: lineChars cs
    else
      match lineChars cs with
      | [] => [[c]]
      | line :: rest => (c :: line) :: rest

def lines (s : String) : List String := (lineChars s.toList).map String.ofList

/-- Every carriage return, alone or with the line feed after it, becomes a line feed. -/
def unifyNewlines : List Char → List Char
  | [] => []
  | '\r' :: '\n' :: cs => '\n' :: unifyNewlines cs
  | '\r' :: cs => '\n' :: unifyNewlines cs
  | c :: cs => c :: unifyNewlines cs

def joinLines (ls : List String) : String := String.join (ls.map (· ++ "\n"))

/-- A line of source, stripped, with its number. -/
structure SourceLine where
  number : Nat
  text : String
  deriving DecidableEq, Repr

def numberedFrom (n : Nat) (ls : List String) : List SourceLine :=
  ((ls.zipIdx n).map fun (line, i) => ⟨i, strip line⟩).filter fun l => !l.text.isEmpty

def sourceLines (source : String) : List SourceLine := numberedFrom 1 (lines source)

end Mailroom.Text
