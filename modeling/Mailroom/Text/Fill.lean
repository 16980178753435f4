/-!
# Filling lines

A text is set in lines of a given width. It is cut at its spaces, and a line takes as much as fits.
A word that is longer than a line is cut: the line takes what there is room for. The space at the
end of a line is dropped, and so is the one at the start of the next.

The text of a help screen is written this way. It has single spaces between its words, so a gap is
one chunk and no line has more than one of them to drop at either end. The number of lines is
bounded by the length of the text, since every line of a positive width takes a character at least.
-/

set_option autoImplicit false

namespace Mailroom.Text

/-- The words of a text and the spaces between them, where `word` is the word so far, last character
first. -/
def chunks (word : List Char) : List Char → List (List Char)
  | [] => if word.isEmpty then [] else [word.reverse]
  | ' ' :: cs => (if word.isEmpty then [] else [word.reverse]) ++ [' '] :: chunks [] cs
  | c :: cs => chunks (c :: word) cs

/-- The chunks that fit on a line of which some columns are used, and those that are left. -/
def takeLine (width used : Nat) : List (List Char) → List (List Char) × List (List Char)
  | [] => ([], [])
  | chunk :: rest =>
    if used + chunk.length ≤ width then
      let (line, left) := takeLine width (used + chunk.length) rest
      (chunk :: line, left)
    else if width < chunk.length then
      ([chunk.take (width - used)], chunk.drop (width - used) :: rest)
    else ([], chunk :: rest)

def isGap (chunk : List Char) : Bool := chunk.all (· == ' ')

def dropLastGap (line : List (List Char)) : List (List Char) :=
  match line.getLast? with
  | some chunk => if isGap chunk then line.dropLast else line
  | none => line

def dropFirstGap : List (List Char) → List (List Char)
  | chunk :: rest => if isGap chunk then rest else chunk :: rest
  | [] => []

def fillLines (width : Nat) : Nat → List (List Char) → List String
  | 0, _ => []
  | _, [] => []
  | lines + 1, chunks =>
    let (line, left) := takeLine width 0 chunks
    match dropLastGap line with
    | [] => fillLines width lines (dropFirstGap left)
    | line => String.ofList line.flatten :: fillLines width lines (dropFirstGap left)

def fill (width : Nat) (text : String) : List String :=
  fillLines width (text.length + 1) (chunks [] text.toList)

end Mailroom.Text
