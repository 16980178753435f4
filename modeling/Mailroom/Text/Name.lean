/-!
# Names and headings

A name is a run of ASCII letters, and a heading is a name with a colon right after it and nothing
else. Headings declare labels in programs and open sections in levels.

Both are looked for in lines that have been stripped. A line with a blank before the colon, or with
anything after it, is no heading, whatever else it may be; nor is a colon that stands alone.
-/

set_option autoImplicit false

namespace Mailroom.Text

def isLetter (c : Char) : Bool := ('a' ≤ c && c ≤ 'z') || ('A' ≤ c && c ≤ 'Z')

def headingName? (cs : List Char) : Option (List Char) :=
  let name := cs.takeWhile isLetter
  if !name.isEmpty && cs.dropWhile isLetter == [':'] then some name else none

def heading? (line : String) : Option String := (headingName? line.toList).map String.ofList

end Mailroom.Text
