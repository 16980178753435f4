import Mailroom.Command.Options
import Mailroom.Text.Fill
import Mailroom.Text.Line

/-!
# How commands are used

The texts that explain a command are laid out for a screen with a number of columns. The two columns
at the right edge stay empty. The number is that of the variable `COLUMNS` if it is positive, and
eighty otherwise, and it may be so small that nothing fits.

The usage is one line if it fits. Otherwise it is broken between its parts, and the lines after the
first start below the first part, or, if the name of the command takes most of the line, further
left. An option that may be left out stands between brackets and is never broken, while one that is
required may be broken before its value.

The help adds a list of labels, each with an explanation in a column of its own. A label that
reaches into that column has a line for itself. The column is right of the longest label, unless
that leaves too little room for the explanations.
-/

set_option autoImplicit false

namespace Mailroom.Command

def commandChoice : String := "\x7b" ++ ",".intercalate (Name.all.map Name.text) ++ "\x7d"

def levelChoice : String := "\x7b" ++ ",".intercalate (LogLevel.all.map LogLevel.name) ++ "\x7d"

def spaces (n : Nat) : String := String.ofList (List.replicate n ' ')

def textWidth (columns : Int) : Int := columns - 2

/-! ## Usage -/

/-- An option with a stand-in for its values, as the usage and the help write it. -/
def Flag.label : Flag → String
  | .help => "-h, --help"
  | .program => "--program PROGRAM"
  | .cycleLimit => "--cycle-limit CYCLE_LIMIT"
  | .logLevel => "--log-level " ++ levelChoice
  | .input => "--input [INPUT ...]"
  | .level => "--level LEVEL"

namespace Reader

/-- The parts of the usage that an option makes. One that may be left out is a single part. -/
def flagParts (r : Reader) (f : Flag) : List String :=
  if r.required.contains f then f.label.splitOn " "
  else if f = .help then ["[-h]"]
  else ["[" ++ f.label ++ "]"]

def optionParts (r : Reader) : List String := r.flags.flatMap r.flagParts

def argumentParts : Reader → List String
  | .top => [commandChoice, "..."]
  | .command _ => []

/-- Sets parts in lines, where the next part goes to a column unless it would go beyond the width.
Lines after this one start at the column `indent`. -/
def breakParts (width : Int) (indent : Nat) : Nat → List String → List String → List (List String)
  | _, line, [] => if line.isEmpty then [] else [line]
  | column, line, part :: rest =>
    if width < (column + part.length : Nat) && !line.isEmpty then
      line :: breakParts width indent (indent + part.length + 1) [part] rest
    else breakParts width indent (column + part.length + 1) (line ++ [part]) rest

def indentAfterFirst (indent : Nat) : List (List String) → List String
  | [] => []
  | first :: rest => " ".intercalate first :: rest.map fun l => spaces indent ++ " ".intercalate l

def usageMark : String := "usage: "

def brokenUsage (r : Reader) (width : Int) : List String :=
  let start := usageMark.length
  let ownLine := fun (line : List String) => spaces start ++ " ".intercalate line
  -- the name may take three quarters of the line
  if 4 * ((start + r.shown.length : Nat) : Int) ≤ 3 * width then
    let indent := start + r.shown.length + 1
    indentAfterFirst indent
      (breakParts width indent start [] (r.shown :: r.optionParts) ++
        breakParts width indent indent [] r.argumentParts)
  else
    match breakParts width start start [] (r.optionParts ++ r.argumentParts) with
    | [line] => [r.shown, ownLine line]
    | _ =>
      r.shown :: (breakParts width start start [] r.optionParts ++
        breakParts width start start [] r.argumentParts).map ownLine

def usageLines (r : Reader) (columns : Int) : List String :=
  let width := textWidth columns
  let single := " ".intercalate (r.shown :: r.optionParts ++ r.argumentParts)
  let lines :=
    if ((usageMark ++ single).length : Int) ≤ width then [single] else r.brokenUsage width
  match lines with
  | [] => []
  | first :: rest => (usageMark ++ first) :: rest

/-! ## Help -/

end Reader

structure HelpEntry where
  indent : Nat := 2
  label : String
  explanation : Option String

def Name.explanation : Name → String
  | .check => "load a program and print its size and labels"
  | .run => "run a program once against the given input"
  | .verify => "run a program against every test of a level"

def Flag.explanation : Flag → Option String
  | .help => some "show this help message and exit"
  | .program => some "HRM program file"
  | .cycleLimit => some "abort a run after this many cycles (default: HRM_CYCLE_LIMIT or 1000)"
  | .logLevel => none
  | .input => some "inbox values"
  | .level => some "level file"

namespace Reader

def sections (r : Reader) : List (String × List HelpEntry) :=
  let options := r.flags.map fun f => { label := f.label, explanation := f.explanation }
  let commands := Name.all.map fun n =>
    { indent := 4, label := n.text, explanation := some n.explanation }
  match r with
  | .top =>
    [("positional arguments:", { label := commandChoice, explanation := none } :: commands),
     ("options:", options)]
  | .command _ => [("options:", options)]

/-- The column of the explanations: right of the longest label, but not too far to the right. -/
def explanationColumn (r : Reader) (width : Int) : Nat :=
  let labels := r.sections.flatMap fun s => s.2.map fun e => e.label.length + 4
  min (labels.foldl max 0) (min 24 (max (width - 20) 4)).toNat

end Reader

def HelpEntry.lines (e : HelpEntry) (width : Int) (column : Nat) : List String :=
  let label := spaces e.indent ++ e.label
  match e.explanation with
  | none => [label]
  | some text =>
    let filled := Text.fill (max (width - column) 11).toNat text
    if label.length + 2 ≤ column then
      match filled with
      | [] => [label]
      | first :: rest =>
        (label ++ spaces (column - label.length) ++ first) :: rest.map (spaces column ++ ·)
    else label :: filled.map (spaces column ++ ·)

namespace Reader

/-- The lines that explain what a reader understands, with an empty line before each section. -/
def helpLines (r : Reader) (columns : Int) : List String :=
  let width := textWidth columns
  r.sections.flatMap fun (heading, entries) =>
    "" :: heading :: entries.flatMap fun e => e.lines width (r.explanationColumn width)

def usage (r : Reader) (columns : Int) : String := Text.joinLines (r.usageLines columns)

def help (r : Reader) (columns : Int) : String :=
  Text.joinLines (r.usageLines columns ++ r.helpLines columns)

end Reader

/-! ## Screens -/

def columnsVariable : String := "COLUMNS"

def defaultColumns : Int := 80

end Mailroom.Command
