import Mailroom.Files.Path
import Mailroom.Text.Line
import Mailroom.Text.Quoted
import Mailroom.Text.Utf8

/-!
# Reading files

The files are seen through one question: what does a path lead to? The answer is a `View`, a
function from paths to what is found there, and whether it comes from a disk or from memory makes no
difference to what is read.

A text is read from a file as UTF-8, with every line ending made a line feed. There are three ways
in which that fails: nothing can be opened at the path, the bytes are not UTF-8, or the path itself
has a null character in it. The last is not a fault of the files, and callers tell it apart.

Paths are tidied before they are looked up, and messages show the tidy form.
-/

set_option autoImplicit false

namespace Mailroom.Files

inductive Found where
  | file (bytes : List UInt8)
  | directory
  | missing
  | throughFile
  /-- The path, or a name in it, is longer than any can be. -/
  | tooLong
  deriving DecidableEq, Repr

def Found.exists : Found → Bool
  | .file _ => true
  | .directory => true
  | .missing => false
  | .throughFile => false
  | .tooLong => false

abbrev View := String → Found

inductive OpenFault where
  | missing
  | throughFile
  | isDirectory
  | tooLong
  deriving DecidableEq, Repr

def OpenFault.shown : OpenFault → String
  | .missing => "[Errno 2] No such file or directory"
  | .throughFile => "[Errno 20] Not a directory"
  | .isDirectory => "[Errno 21] Is a directory"
  | .tooLong => "[Errno 36] File name too long"

inductive ReadError where
  | notOpened (fault : OpenFault) (path : String)
  | notUtf8 (e : Text.Utf8Error)
  | nullInPath
  deriving DecidableEq, Repr

def ReadError.message : ReadError → String
  | .notOpened fault path => fault.shown ++ ": " ++ Text.quoted path
  | .notUtf8 e => e.message
  | .nullInPath => "embedded null byte"

def readBytes (files : View) (path : String) : Except ReadError (List UInt8) :=
  let tidy := tidyPath path
  if path.toList.contains '\x00' then .error .nullInPath
  else
    match files tidy with
    | .file bytes => .ok bytes
    | .directory => .error (.notOpened .isDirectory tidy)
    | .missing => .error (.notOpened .missing tidy)
    | .throughFile => .error (.notOpened .throughFile tidy)
    | .tooLong => .error (.notOpened .tooLong tidy)

def textOfBytes (bytes : List UInt8) : Except Text.Utf8Error String :=
  (Text.decodeUtf8 bytes).map fun cs => String.ofList (Text.unifyNewlines cs)

def readText (files : View) (path : String) : Except ReadError String :=
  match readBytes files path with
  | .error e => .error e
  | .ok bytes =>
    match textOfBytes bytes with
    | .ok text => .ok text
    | .error e => .error (.notUtf8 e)

/-- Whether a path leads to anything. A path that is too long is not even looked up. -/
def isThere (files : View) (path : String) : Except ReadError Bool :=
  let tidy := tidyPath path
  if path.toList.contains '\x00' then .ok false
  else
    match files tidy with
    | .tooLong => .error (.notOpened .tooLong tidy)
    | found => .ok found.exists

end Mailroom.Files
