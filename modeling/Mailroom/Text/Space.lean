/-!
# Blank characters, stripping and words

A source line is read through two operations: `strip` takes the blanks off both ends, and `words`
cuts a text into its maximal runs of characters that are not blank. Both are written on lists of
characters first, where they are plain recursions, and lifted to strings.

There are two classes of characters. White space is what may stand around a numeral. The blanks have
the four information separators besides, and they are what separates words and is stripped off
lines. Neither is the set of the characters that end a line, which is in `Text/Line`: there are
blanks that end no line, and all characters that end a line are blanks.
-/

set_option autoImplicit false

namespace Mailroom.Text

/-- The characters with the property White_Space. -/
def isSpace (c : Char) : Bool :=
  let n := c.toNat
  (0x09 ≤ n && n ≤ 0x0D) || n == 0x20 || n == 0x85 || n == 0xA0 || n == 0x1680 ||
    (0x2000 ≤ n && n ≤ 0x200A) || n == 0x2028 || n == 0x2029 || n == 0x202F || n == 0x205F ||
    n == 0x3000

/-- The characters that separate words: white space, and the four information separators
U+001C to U+001F. -/
def isBlank (c : Char) : Bool :=
  isSpace c || (0x1C ≤ c.toNat && c.toNat ≤ 0x1F)

def trimBoth (p : Char → Bool) (cs : List Char) : List Char :=
  ((cs.dropWhile p).reverse.dropWhile p).reverse

def strip (s : String) : String := String.ofList (trimBoth isBlank s.toList)

def closeWord (word : List Char) (done : List (List Char)) : List (List Char) :=
  if word.isEmpty then done else word :: done

/-- The word that a list of characters starts with, possibly empty, and the words after it. -/
def splitWords : List Char → List Char × List (List Char)
  | [] => ([], [])
  | c :: cs =>
    let (word, done) := splitWords cs
    if isBlank c then ([], closeWord word done) else (c :: word, done)

def wordChars (cs : List Char) : List (List Char) :=
  let (word, done) := splitWords cs
  closeWord word done

def words (s : String) : List String := (wordChars s.toList).map String.ofList

end Mailroom.Text
