import Mailroom.Log

/-!
# Commands and their options

There are three commands. Each has the options that all commands share, and at most one of its own:
`run` has `--input`, which takes any number of values, and `verify` has `--level`, which it cannot
do without. Every command needs a program.

A command line has two readers. The program itself reads up to the name of the command, and knows no
option but the one for help. The command reads the rest. What a word means depends on its reader,
and so do the usage and the messages, which name the reader that found the fault. Everything else
about an option, how it is spelled and how many values it takes, is the same for all.
-/

set_option autoImplicit false

namespace Mailroom.Command

inductive Name where
  | check
  | run
  | verify
  deriving DecidableEq, Repr

namespace Name

def all : List Name := [.check, .run, .verify]

def text : Name → String
  | .check => "check"
  | .run => "run"
  | .verify => "verify"

def ofText? (s : String) : Option Name := all.find? (·.text == s)

end Name

inductive Flag where
  | help
  | program
  | cycleLimit
  | logLevel
  | input
  | level
  deriving DecidableEq, Repr

inductive Arity where
  | none
  | one
  | many
  deriving DecidableEq, Repr

namespace Flag

def spellings : Flag → List String
  | .help => ["-h", "--help"]
  | .program => ["--program"]
  | .cycleLimit => ["--cycle-limit"]
  | .logLevel => ["--log-level"]
  | .input => ["--input"]
  | .level => ["--level"]

def shown (f : Flag) : String := "/".intercalate f.spellings

def arity : Flag → Arity
  | .help => .none
  | .input => .many
  | _ => .one

end Flag

/-- Who reads the words of a command line: the program itself, up to the command, and then the
command. -/
inductive Reader where
  | top
  | command (name : Name)
  deriving DecidableEq, Repr

namespace Reader

def shared : List Flag := [.help, .program, .cycleLimit, .logLevel]

def flags : Reader → List Flag
  | .top => [.help]
  | .command .check => shared
  | .command .run => shared ++ [.input]
  | .command .verify => shared ++ [.level]

def required : Reader → List Flag
  | .top => []
  | .command .verify => [.program, .level]
  | .command _ => [.program]

def spellings (r : Reader) : List (String × Flag) :=
  r.flags.flatMap fun f => f.spellings.map fun s => (s, f)

def shown : Reader → String
  | .top => "hrm"
  | .command name => "hrm " ++ name.text

end Reader

end Mailroom.Command
