import Mailroom.Files.Basic
import Mailroom.Settings.Environment
import Mailroom.Text.Case
import Mailroom.Text.Numeral

/-!
# Settings

The settings are the cycle limit and the log level. They come from the environment, to which a file
of variables may add: the one of the installation if there is any, else the nearest one from the
working directory upwards. One variable keeps all files from being read.

An empty variable is as good as none, and so is a limit of nothing but blanks. The limit has to be a
positive integer. The log level is taken as it is, in upper case. Whether there is such a level is
not looked at here.

Loading fails in four ways: a limit that is no integer or not positive, a file that is not text, and
a variable of a file that cannot be set. Statements of the file that are not understood are no
failure. They come out as warnings, and the others count.
-/

set_option autoImplicit false

namespace Mailroom

structure Settings where
  cycleLimit : Nat
  /-- The log level as it was given, in upper case; it need not be one. -/
  logLevel : String
  deriving DecidableEq, Repr

inductive SettingsError where
  | limitNotInteger (text : String)
  | limitNotPositive
  | notUtf8 (e : Text.Utf8Error)
  | notSettable (fault : Environment.Fault)
  deriving DecidableEq, Repr

/-- Where variables come from: the environment, what is found in the place of the file of the
installation, and what is found in the working directory and in each directory above it, nearest
first. -/
structure Sources where
  environment : Environment
  installation : Files.Found
  nearby : List Files.Found

namespace Settings

def limitVariable : String := "HRM_CYCLE_LIMIT"

def levelVariable : String := "HRM_LOG_LEVEL"

def disablingVariable : String := "PYTHON_DOTENV_DISABLED"

def variableNames : List String := [limitVariable, levelVariable, disablingVariable]

def defaultCycleLimit : Nat := 1000

def defaultLogLevel : String := "WARNING"

end Settings

def SettingsError.message : SettingsError → String
  | .limitNotInteger text =>
    Settings.limitVariable ++ " must be an integer, got " ++ Text.quoted text
  | .limitNotPositive => Settings.limitVariable ++ " must be >= 1"
  | .notUtf8 e => e.message
  | .notSettable fault => fault.message

namespace Sources

def fileBytes? : Files.Found → Option (List UInt8)
  | .file bytes => some bytes
  | _ => none

/-- The file of variables to read. Anything in the place of the file of the installation keeps the
others from being read. -/
def fileToRead? (s : Sources) : Option (List UInt8) :=
  if s.installation.exists then fileBytes? s.installation else s.nearby.findSome? fileBytes?

/-- Whether files of variables are not to be read. The case of the word does not matter. -/
def isDisabled (s : Sources) : Bool :=
  match s.environment.lookup Settings.disablingVariable with
  | some value => ["1", "true", "t", "yes", "y"].any fun word => Text.foldsTo word value
  | none => false

def statements (s : Sources) : Except SettingsError (List EnvFile.Statement) :=
  if s.isDisabled then .ok []
  else
    match s.fileToRead? with
    | none => .ok []
    | some bytes =>
      match Files.textOfBytes bytes with
      | .ok text => .ok (EnvFile.statements text)
      | .error e => .error (.notUtf8 e)

def warning? : EnvFile.Statement → Option String
  | .unparsable line => some s!"python-dotenv could not parse statement starting at line {line}"
  | _ => none

def warnings (s : Sources) : List String :=
  match s.statements with
  | .ok statements => statements.filterMap warning?
  | .error _ => []

end Sources

namespace Settings

def readLimit (env : Environment) : Except SettingsError Nat :=
  let text := Text.strip ((env.lookup limitVariable).getD "")
  if text.isEmpty then .ok defaultCycleLimit
  else
    match Text.readDecimal text with
    | .error _ => .error (.limitNotInteger text)
    | .ok n => if n < 1 then .error .limitNotPositive else .ok n.toNat

/-- The log level in an environment. An empty one is as good as none. -/
def readLevel (env : Environment) : String :=
  let given := (env.lookup levelVariable).getD ""
  Text.upper (Text.strip (if given.isEmpty then defaultLogLevel else given))

def ofEnvironment (env : Environment) : Except SettingsError Settings := do
  let limit ← readLimit env
  return ⟨limit, readLevel env⟩

def load (s : Sources) : Except SettingsError Settings := do
  let statements ← s.statements
  match s.environment.addFile statements with
  | .ok env => ofEnvironment env
  | .error fault => throw (.notSettable fault)

end Settings

end Mailroom
