import Mailroom.Text.Case

/-!
# Paths

A path is a text of names with slashes between them. Its tidy form drops what means nothing: empty
names, single dots, and a slash at the end. Two dots stay, since what they lead to depends on the
files. Two slashes at the front stay two, while three or more are as good as one.

The ending of a name decides in which format a level is read, so it matters what counts as one. A
name that starts with its only dot has no ending, and neither has one that ends with a dot.
-/

set_option autoImplicit false

namespace Mailroom.Files

/-- The slashes that a path starts from: none, one, or exactly two. -/
def pathRoot (path : String) : String :=
  match path.toList with
  | '/' :: '/' :: '/' :: _ => "/"
  | '/' :: '/' :: _ => "//"
  | '/' :: _ => "/"
  | _ => ""

def pathNames (path : String) : List String :=
  ((path.toList.splitOn '/').map String.ofList).filter fun name => name != "" && name != "."

/-- The tidy form of a path. The path of no name is a dot. -/
def tidyPath (path : String) : String :=
  let tidy := pathRoot path ++ "/".intercalate (pathNames path)
  if tidy.isEmpty then "." else tidy

def longestName : Nat := 255

def longestPath : Nat := 4095

/-- The ending of a name: its last dot and what follows it. A dot at the front or at the end of a
name starts no ending. -/
def nameSuffix (name : String) : String :=
  let reversed := name.toList.reverse
  let ending := reversed.takeWhile (· != '.')
  let stem := (reversed.dropWhile (· != '.')).drop 1
  if ending.isEmpty || stem.isEmpty then "" else String.ofList ('.' :: ending.reverse)

def pathSuffix (path : String) : String := nameSuffix ((pathNames path).getLast?.getD "")

end Mailroom.Files
