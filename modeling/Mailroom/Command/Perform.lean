import Mailroom.Command.Parse
import Mailroom.Command.Usage
import Mailroom.Level.File
import Mailroom.Program.File
import Mailroom.Report.Print

/-!
# Performing commands

A command ends with a status or with a message, and with what it has written to the two streams.
`check` prints the size and the labels of a program, `run` runs it once, and `verify` tries it on a
level. The log goes to the second stream, and is only written at the lowest level.

Faults come in two kinds. Those that a user can be expected to make end with a status of 2 and the
usage, or with a message: a program that does not load, a file that is not there, a level that is
none. All others are a `Crash`: nothing is prepared for them, and what the streams would have held
is lost. A scalar of a level that has no value is one of them, and so is a number of a report that
cannot be printed, and an option that was given the mark for no value.

The settings come first, since the log level and the cycle limit have their defaults there. So a
configuration that is wrong is reported whatever the command line says, even if it asks for help.
-/

set_option autoImplicit false

namespace Mailroom.Command

open Machine

inductive Exit where
  | status (code : Nat)
  | message (text : String)
  deriving DecidableEq, Repr

structure Outcome where
  exit : Exit
  stdout : String := ""
  stderr : String := ""
  deriving DecidableEq, Repr

/-- A failure that no message is prepared for. -/
inductive Crash where
  | scalar (e : ScalarError)
  | print (e : PrintError)
  | fault (f : Fault)
  /-- An option was given the mark that stands for no value. -/
  | noValue (flag : Flag)
  | file (e : Files.ReadError)
  deriving DecidableEq, Repr

def Crash.message : Crash → String
  | .scalar e => e.message
  | .print e => e.message
  | .fault f => f.message
  | .noValue .logLevel => "'list' object has no attribute 'upper'"
  | .noValue .cycleLimit => "'<' not supported between instances of 'list' and 'int'"
  | .noValue _ => "expected str, bytes or os.PathLike object, not list"
  | .file e => e.message

def valueOr {α : Type} (flag : Flag) (default : α) : Given α → Except Crash α
  | .absent => .ok default
  | .value a => .ok a
  | .nothing => .error (.noValue flag)

def defaultLevel (settings : Settings) : LogLevel :=
  (LogLevel.ofName? settings.logLevel).getD .warning

/-- Lines of the log, which are written at the lowest level only. -/
def logText (level : LogLevel) (lines : List String) : String :=
  if level = .debug then Text.joinLines lines else ""

/-! ## The three commands -/

/-- The labels of a program by address, those of one address by name. -/
def sortedLabels (p : Program) : List (String × Int) :=
  p.labels.mergeSort fun a b => a.2 < b.2 || (a.2 == b.2 && decide (a.1 ≤ b.1))

def checkText (p : Program) : String :=
  Text.joinLines (s!"Instructions: {p.size}" ::
    (sortedLabels p).map fun (name, address) => s!"- {name}: {address}")

def runText (r : Result Cell) : String :=
  Text.joinLines ["Outbox: " ++ Cell.showList r.output, s!"Cycles: {r.cycles}"]

def performRun (p : Program) (limit : Nat) (input : List Cell) :
    Except Crash (Outcome × List String) :=
  let stopped := Machine.run p limit input
  let log := stopped.events.map Event.logLine
  match stopped.result with
  | .ok r => .ok (⟨.status 0, runText r, ""⟩, log)
  | .error fault =>
    if fault.isProgramFault then .ok (⟨.message ("error: " ++ fault.message), "", ""⟩, log)
    else .error (.fault fault)

def performVerify (p : Program) (limit : Nat) (level : Level) :
    Except Crash (Outcome × List String) := do
  let judged := judge p limit .initial level.tests
  match Report.score p level limit with
  | .error fault => throw (.fault fault)
  | .ok report =>
    match report.text with
    | .error e => throw (.print e)
    | .ok text =>
      let status := if report.passed then 0 else 1
      return (⟨.status status, text, ""⟩, judged.events.map Event.logLine)

def fileMessage (path text : String) : Outcome :=
  ⟨.message (Files.tidyPath path ++ ": " ++ text), "", ""⟩

variable [Yaml.Reach]

def verifyFile (files : Files.View) (p : Program) (limit : Nat) (path : String) :
    Except Crash (Outcome × List String) :=
  match Level.ofFile files path with
  | .ok level => performVerify p limit level
  | .error (.level (.level e)) => .ok (fileMessage path e.message, [])
  -- only faults of the level itself are turned into messages
  | .error (.level (.scalar e)) => .error (.scalar e)
  | .error (.file .nullInPath) => .error (.file .nullInPath)
  | .error (.file e) => .ok (fileMessage path e.message, [])

def performOn (files : Files.View) (inv : Invocation) (p : Program) (limit : Nat) :
    Except Crash (Outcome × List String) :=
  match inv.name with
  | .check => .ok (⟨.status 0, checkText p, ""⟩, [])
  | .run => performRun p limit inv.arguments.input
  | .verify => do
    verifyFile files p limit (← valueOr .level "" inv.arguments.level)

def performFile (files : Files.View) (inv : Invocation) (path : String) (limit : Nat) :
    Except Crash (Outcome × List String) :=
  match Program.ofFile Program.defaultHeader files path with
  | .error .nullInPath => .error (.file .nullInPath)
  | .error (.load e) => .ok (fileMessage path e.message, [])
  | .ok p => do
    let (outcome, log) ← performOn files inv p limit
    return (outcome, p.loadedLine :: log)

/-! ## The command line -/

def columnsIn (env : Environment) : Int :=
  match (env.lookup columnsVariable).map Text.readDecimal with
  | some (.ok n) => if n ≤ 0 then defaultColumns else n
  | _ => defaultColumns

def Stop.outcome (columns : Int) : Stop → Outcome
  | .help reader => ⟨.status 0, reader.help columns, ""⟩
  | .usage reader fault =>
    ⟨.status 2, "", reader.usage columns ++ reader.shown ++ ": error: " ++ fault.message ++ "\n"⟩

/-- Performs a command. The log level and the cycle limit are looked at before the program. -/
def perform (columns : Int) (files : Files.View) (settings : Settings) (inv : Invocation) :
    Except Crash Outcome := do
  let level ← valueOr .logLevel (defaultLevel settings) inv.arguments.logLevel
  let limit ← valueOr .cycleLimit (settings.cycleLimit : Int) inv.arguments.cycleLimit
  match checkLimit limit with
  | none => return (Stop.usage .top .limitNotPositive).outcome columns
  | some limit =>
    let path ← valueOr .program "" inv.arguments.program
    let (outcome, log) ← performFile files inv path limit
    return { outcome with stderr := logText level log }

def respond (columns : Int) (files : Files.View) (settings : Settings) (words : List String) :
    Except Crash Outcome :=
  match parse files words with
  | .error (.usage _ (.badValue _ (.unreachable e))) => .error (.file e)
  | .error stop => .ok (stop.outcome columns)
  | .ok inv => perform columns files settings inv

/-- What comes of a command line. Warnings about the file of variables come first. -/
def execute (sources : Sources) (files : Files.View) (words : List String) :
    Except Crash Outcome := do
  let outcome ←
    match Settings.load sources with
    | .error e => pure ⟨.message ("configuration error: " ++ e.message), "", ""⟩
    | .ok settings => respond (columnsIn sources.environment) files settings words
  return { outcome with stderr := Text.joinLines sources.warnings ++ outcome.stderr }

end Mailroom.Command
