import Mailroom.Files.Basic

/-!
# Files held in memory

A tree of files has a working directory and entries, each at its full path. Every directory on the
way to an entry or to the working directory is there too, without an entry of its own. A path is
followed name by name, and each name but the last has to lead to a directory. A name is looked up
only if it is not too long, so a path can be too long in its third name and fail at its second for
another reason.

Nothing here is ever changed. A tree is what a request describes, and its `view` is all that the
readers of files get to see.
-/

set_option autoImplicit false

namespace Mailroom.Files

inductive Entry where
  | file (bytes : List UInt8)
  | directory
  deriving DecidableEq, Repr

/-- Files and directories by their full paths, and the directory that other paths start from. -/
structure Tree where
  workingDirectory : List String
  entries : List (List String × Entry)

namespace Tree

def isOnTheWay (directory place : List String) : Bool := directory.isPrefixOf place

def at? (t : Tree) (place : List String) : Found :=
  match t.entries.lookup place with
  | some (.file bytes) => .file bytes
  | some .directory => .directory
  | none =>
    if isOnTheWay place t.workingDirectory || t.entries.any (isOnTheWay place ·.1) then .directory
    else .missing

/-- The place that a name leads to. Nothing lies above the root. -/
def step (place : List String) (name : String) : List String :=
  if name = ".." then place.dropLast else place ++ [name]

def follow (t : Tree) : List String → List String → Found
  | place, [] => t.at? place
  | place, name :: rest =>
    match t.at? place with
    | .directory =>
      if longestName < name.utf8ByteSize then .tooLong else follow t (step place name) rest
    | .file _ => .throughFile
    | found => found

def view (t : Tree) : View := fun path =>
  if longestPath < path.utf8ByteSize then .tooLong
  else t.follow (if pathRoot path = "" then t.workingDirectory else []) (pathNames path)

end Tree

end Mailroom.Files
