import Mailroom.Cell
import Mailroom.Command.Words
import Mailroom.Files.Basic
import Mailroom.Settings.Basic

/-!
# Reading a command line

The program reads the words up to the command, and the command reads the rest. Words are read from
left to right, and each value is converted when its option is read, so the first mistake is the one
that is reported. An option that is given twice has the value that was given last. A word that
nobody has a use for is left over, and what is left over is reported last of all, after the options
that are required and missing.

The mark `--` can also stand where a value is wanted. It then counts as given and holds no value
(`Given.nothing`), which is found only when the command is performed. Among the values for the inbox
it is dropped once.

Help ends the reading at once, whatever is wrong behind it. A fault has the reader that found it,
because the usage of that reader is printed above the message.
-/

set_option autoImplicit false

namespace Mailroom.Command

inductive ValueFault where
  | pathNotFound (text : String)
  | notInteger (text : String)
  /-- A text, in upper case, that is no log level. -/
  | notLevel (text : String)
  | notCell (text : String)
  | unreachable (e : Files.ReadError)
  deriving DecidableEq, Repr

inductive UsageFault where
  | ambiguous (a : Ambiguity)
  /-- A value is attached to an option that takes none. -/
  | attachedIgnored (flag : Flag) (text : String)
  | valueExpected (flag : Flag)
  | badValue (flag : Flag) (fault : ValueFault)
  | unknownCommand (text : String)
  | commandRequired
  | flagsRequired (flags : List Flag)
  | leftOver (words : List String)
  | limitNotPositive
  deriving DecidableEq, Repr

def choices (texts : List String) : String := ", ".intercalate (texts.map Text.quoted)

def ValueFault.message : ValueFault → String
  | .pathNotFound text => "path not found: " ++ text
  | .notInteger text => "invalid int value: " ++ Text.quoted text
  | .notLevel text =>
    "invalid choice: " ++ Text.quoted text ++
      " (choose from " ++ choices (LogLevel.all.map LogLevel.name) ++ ")"
  | .notCell text => "invalid value: " ++ text
  | .unreachable e => e.message

def argumentMessage (name text : String) : String := "argument " ++ name ++ ": " ++ text

def UsageFault.message : UsageFault → String
  | .ambiguous a =>
    "ambiguous option: " ++ a.word ++ " could match " ++ ", ".intercalate a.candidates
  | .attachedIgnored flag text =>
    argumentMessage flag.shown ("ignored explicit argument " ++ Text.quoted text)
  | .valueExpected flag => argumentMessage flag.shown "expected one argument"
  | .badValue flag fault => argumentMessage flag.shown fault.message
  | .unknownCommand text =>
    argumentMessage "cmd" ("invalid choice: " ++ Text.quoted text ++
      " (choose from " ++ choices (Name.all.map Name.text) ++ ")")
  | .commandRequired => "the following arguments are required: cmd"
  | .flagsRequired flags =>
    "the following arguments are required: " ++ ", ".intercalate (flags.map Flag.shown)
  | .leftOver words => "unrecognized arguments: " ++ " ".intercalate words
  | .limitNotPositive => "--cycle-limit must be >= 1"

/-- Why a command line leads to no command: help is asked for, or something is wrong with it. -/
inductive Stop where
  | help (reader : Reader)
  | usage (reader : Reader) (fault : UsageFault)
  deriving DecidableEq, Repr

/-- The value of an option that takes one: not given, given, or given as the mark `--`, which stands
for no value at all. -/
inductive Given (α : Type) where
  | absent
  | value (a : α)
  | nothing
  deriving DecidableEq, Repr

def Given.isGiven {α : Type} : Given α → Bool
  | .absent => false
  | _ => true

structure Arguments where
  program : Given String := .absent
  cycleLimit : Given Int := .absent
  logLevel : Given LogLevel := .absent
  input : List Cell := []
  level : Given String := .absent
  leftOver : List String := []
  deriving DecidableEq, Repr

namespace Arguments

def has (a : Arguments) : Flag → Bool
  | .program => a.program.isGiven
  | .level => a.level.isGiven
  | .cycleLimit => a.cycleLimit.isGiven
  | .logLevel => a.logLevel.isGiven
  | .help => false
  | .input => !a.input.isEmpty

def leave (a : Arguments) (word : String) : Arguments := { a with leftOver := a.leftOver ++ [word] }

end Arguments

/-! ## Values -/

def readPath (files : Files.View) (text : String) : Except ValueFault String :=
  match Files.isThere files text with
  | .ok true => .ok text
  | .ok false => .error (.pathNotFound text)
  | .error e => .error (.unreachable e)

def readInteger (text : String) : Except ValueFault Int :=
  match Text.readDecimal text with
  | .ok n => .ok n
  | .error _ => .error (.notInteger text)

/-- A log level, in either case. -/
def readLevel (text : String) : Except ValueFault LogLevel :=
  match LogLevel.ofName? (Text.upper text) with
  | some l => .ok l
  | none => .error (.notLevel (Text.upper text))

def readCell (text : String) : Except ValueFault Cell :=
  match Text.readDecimal text with
  | .ok n =>
    match Cell.ofInt n with
    | .ok c => .ok c
    | .error _ => .error (.notCell text)
  | .error _ => .error (.notCell text)

def readOne {α : Type} (read : String → Except ValueFault α) (text : String) :
    Except ValueFault (Given α) :=
  if text = "--" then .ok .nothing else (read text).map .value

def readMany (texts : List String) : Except ValueFault (List Cell) :=
  (texts.erase "--").mapM readCell

def Arguments.give (files : Files.View) (a : Arguments) (flag : Flag) (texts : List String) :
    Except ValueFault Arguments :=
  match flag, texts with
  | .input, texts => (readMany texts).map fun cells => { a with input := cells }
  | .program, [text] => (readOne (readPath files) text).map fun v => { a with program := v }
  | .level, [text] => (readOne (readPath files) text).map fun v => { a with level := v }
  | .cycleLimit, [text] => (readOne readInteger text).map fun v => { a with cycleLimit := v }
  | .logLevel, [text] => (readOne readLevel text).map fun v => { a with logLevel := v }
  | _, _ => .ok a

/-! ## Words -/

/-- What comes of the help option. The letters after a single dash are options of their own, so the
one for help may be repeated there; anything else attached to it has no use. -/
def askHelp (reader : Reader) (spelling : String) (attached : Option String) : Stop :=
  match attached with
  | none => .help reader
  | some text =>
    -- an empty text is attached by an equals sign, and is not used either
    let unused := if spelling = "-h" then text.toList.dropWhile (· == 'h') else text.toList
    if unused.isEmpty && !text.isEmpty then .help reader
    else .usage reader (.attachedIgnored .help (String.ofList unused))

/-- The values that an option takes from the words after it, and how many words they are. -/
def takeValues (reader : Reader) (flag : Flag) (attached : Option String) (rest : List Word) :
    Except Stop (List String × Nat) :=
  match attached with
  | some text => .ok ([text], 0)
  | none =>
    let values := (rest.takeWhile (·.kind == .value)).map (·.text)
    match flag.arity, values with
    | .none, _ => .ok ([], 0)
    | .many, values => .ok (values, values.length)
    | .one, v :: _ => .ok ([v], 1)
    | .one, [] => .error (.usage reader (.valueExpected flag))

def readWords (files : Files.View) (reader : Reader) :
    Nat → Arguments → List Word → Except Stop Arguments
  | _, a, [] => .ok a
  | skip + 1, a, _ :: rest => readWords files reader skip a rest
  | 0, a, w :: rest =>
    match w.kind with
    | .option .help spelling attached => .error (askHelp reader spelling attached)
    | .option flag _ attached =>
      match takeValues reader flag attached rest with
      | .error stop => .error stop
      | .ok (texts, taken) =>
        match a.give files flag texts with
        | .ok a => readWords files reader taken a rest
        | .error fault => .error (.usage reader (.badValue flag fault))
    | _ => readWords files reader 0 (a.leave w.text) rest

def sortWords (reader : Reader) (words : List String) : Except Stop (List Word) :=
  match Word.sortAll reader words with
  | .ok ws => .ok ws
  | .error a => .error (.usage reader (.ambiguous a))

def readCommand (files : Files.View) (name : Name) (words : List String) :
    Except Stop Arguments := do
  let reader := Reader.command name
  let sorted ← sortWords reader words
  let a ← readWords files reader 0 {} sorted
  match reader.required.filter (!a.has ·) with
  | [] => return a
  | missing => throw (.usage reader (.flagsRequired missing))

structure Invocation where
  name : Name
  arguments : Arguments
  deriving DecidableEq, Repr

/-- Reads the words up to the command, with the words that are left over so far. -/
def readTop (files : Files.View) (leftOver : List String) : List Word → Except Stop Invocation
  | [] => .error (.usage .top .commandRequired)
  | w :: rest =>
    match w.kind with
    | .option _ spelling attached => .error (askHelp .top spelling attached)
    | .unknown => readTop files (leftOver ++ [w.text]) rest
    | .mark =>
      .error (.usage .top (if rest.isEmpty then .commandRequired else .unknownCommand w.text))
    | .value =>
      match Name.ofText? w.text with
      | none => .error (.usage .top (.unknownCommand w.text))
      | some name =>
        match readCommand files name (rest.map (·.text)) with
        | .error stop => .error stop
        | .ok a =>
          match leftOver ++ a.leftOver with
          | [] => .ok ⟨name, a⟩
          | words => .error (.usage .top (.leftOver words))

def parse (files : Files.View) (words : List String) : Except Stop Invocation := do
  readTop files [] (← sortWords .top words)

end Mailroom.Command
