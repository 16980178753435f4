import Mailroom.Command.Perform

/-!
# The program

The outer layer of the command line: it looks at the environment and at the files that a command
line names, and writes what comes of it. Nothing is decided here. Which words name files is not
known before they are read, so every word is looked up, and what stands behind an equals sign in it
too.

The variables are read in two rounds. The files of variables are looked for first, and the
environment is then asked for the variables that the settings or the file have to do with.
-/

set_option autoImplicit false

namespace Mailroom.Main

open Files

def look (path : String) : IO Found := do
  try
    return .file (← IO.FS.readBinFile path).toList
  catch
    | .inappropriateType _ code _ => return if code == 20 then .throughFile else .directory
    | .invalidArgument _ code _ => return if code == 36 then .tooLong else .missing
    | _ => return .missing

def pathsOf (word : String) : List String :=
  tidyPath word :: ((Command.Word.splitEquals? word.toList).map fun w => tidyPath w.2).toList

def viewOf (words : List String) : IO View := do
  let found ← (words.flatMap pathsOf).mapM fun path => return (path, ← look path)
  return fun path => (found.lookup path).getD .missing

def upwards (path : String) : List String :=
  let names := pathNames path
  (List.range (names.length + 1)).map fun n =>
    pathRoot path ++ "/".intercalate (names.take (names.length - n))

def lookForVariables (directory : String) : IO Found := look (tidyPath (directory ++ "/.env"))

/-- Where variables come from on this machine. Only those variables are looked up that the settings
or the file of variables have to do with. -/
def sources : IO Sources := do
  let installation ← lookForVariables (← IO.appDir).toString
  let nearby ← (upwards (← IO.currentDir).toString).mapM lookForVariables
  let inFile := match Sources.statements ⟨[], installation, nearby⟩ with
    | .ok statements => statements.flatMap Environment.involved
    | .error _ => []
  let names := (Command.columnsVariable :: Settings.variableNames ++ inFile).eraseDups
  let environment ← names.filterMapM fun name =>
    return (← IO.getEnv name).map fun value => (name, value)
  return ⟨environment, installation, nearby⟩

end Mailroom.Main

open Mailroom in
def main (words : List String) : IO UInt32 := do
  match Command.execute (← Main.sources) (← Main.viewOf words) words with
  | .error crash =>
    IO.eprintln crash.message
    return 1
  | .ok outcome =>
    IO.print outcome.stdout
    IO.eprint outcome.stderr
    match outcome.exit with
    | .status code => return UInt32.ofNat code
    | .message text =>
      IO.eprintln text
      return 1
