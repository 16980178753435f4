import Mailroom.Files.Basic
import Mailroom.Level.Yaml

/-!
# Reading levels from files

The ending of its name says in which format a level is written. The case of the ending does not
matter, and every name without a known ending is that of a level in the plain format. Nothing in the
file itself is looked at to find out.

A file that is not text is a fault of the level, as a text is that does not follow its format. A
file that cannot be opened is none, and it is reported as what it is.
-/

set_option autoImplicit false

namespace Mailroom

inductive LevelFileFailure where
  | level (e : LevelFailure)
  | file (e : Files.ReadError)
  deriving DecidableEq, Repr

namespace Level

def yamlSuffixes : List String := [".yaml", ".yml"]

def isYamlPath (path : String) : Bool :=
  yamlSuffixes.contains (Text.lower (Files.pathSuffix path))

variable [Yaml.Reach]

def ofTextAt (path text : String) : Except LevelFailure Level :=
  if isYamlPath path then ofYaml text else ofText text

def ofFile (files : Files.View) (path : String) : Except LevelFileFailure Level :=
  match Files.readText files path with
  | .ok text =>
    match ofTextAt path text with
    | .ok level => .ok level
    | .error e => .error (.level e)
  | .error (.notUtf8 e) => .error (.level (.level (.notUtf8 e)))
  | .error e => .error (.file e)

end Level

end Mailroom
