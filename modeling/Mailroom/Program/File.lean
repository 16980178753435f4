import Mailroom.Files.Basic
import Mailroom.Program.Load

/-!
# Loading programs from files

A source that cannot be read is a fault of loading, without a line: the file cannot be opened, or it
is not text. So those who load a program from a file have one kind of fault to report, and its
message has the tidy form of the path in it.

A path with a null character is the exception. It is no path at all, and whoever passes it on has
made a mistake of another kind.
-/

set_option autoImplicit false

namespace Mailroom

inductive SourceFailure where
  | load (e : LoadError)
  | nullInPath
  deriving DecidableEq, Repr

def Program.ofFile (header : String) (files : Files.View) (path : String) :
    Except SourceFailure Program :=
  match Files.readText files path with
  | .ok source =>
    match Program.load header source with
    | .ok p => .ok p
    | .error e => .error (.load e)
  | .error .nullInPath => .error .nullInPath
  | .error e => .error (.load ⟨none, .unreadable (Files.tidyPath path) e.message⟩)

end Mailroom
