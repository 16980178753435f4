import Mailroom.Program.Basic
import Mailroom.Text.Line
import Mailroom.Text.Name
import Mailroom.Text.Quoted

/-!
# Loading programs from source

The source of a program is a header line and then one line for each label and each instruction.
Blank lines may stand anywhere, and so may blanks at the ends of a line. A label is a heading: a
name with a colon right after it; it stands for the address of the instruction that follows.

Loading goes through the lines in order and stops at the first that is wrong. The header is compared
as it stands, after blanks have been taken off its ends. A source with nothing but blank lines has
no header, and that is the one fault of loading that has no line.

A jump may name a label that is declared further down, or nowhere. The loader does not look.
-/

set_option autoImplicit false

namespace Mailroom

inductive LoadCause where
  | missingHeader
  | invalidHeader (header : String)
  | unexpectedToken (token : String)
  | duplicateLabel (label : String)
  | unreadable (path reason : String)
  deriving DecidableEq, Repr

/-- A fault in a source, and the number of the line that has it. -/
structure LoadError where
  line : Option Int
  cause : LoadCause
  deriving DecidableEq, Repr

def LoadCause.message : LoadCause → String
  | .missingHeader => "program must start with a HRM header"
  | .invalidHeader header => "invalid program header " ++ Text.quoted header
  | .unexpectedToken token => "unexpected token \"" ++ token ++ "\""
  | .duplicateLabel label => "duplicate label \"" ++ label ++ "\""
  | .unreadable path reason => "cannot read " ++ path ++ ": " ++ reason

def LoadError.message (e : LoadError) : String :=
  match e.line with
  | some n => s!"line {n}: " ++ e.cause.message
  | none => e.cause.message

namespace Program

def defaultHeader : String := "-- HUMAN RESOURCE MACHINE PROGRAM --"

def addLine (p : Program) (l : Text.SourceLine) : Except LoadError Program :=
  match Text.heading? l.text with
  | some name =>
    if p.declares name then .error ⟨some l.number, .duplicateLabel name⟩ else .ok (p.addLabel name)
  | none =>
    match Instruction.parse l.text with
    | .ok i => .ok (p.addInstruction i)
    | .error token => .error ⟨some l.number, .unexpectedToken token⟩

def addLines (p : Program) (ls : List Text.SourceLine) : Except LoadError Program :=
  ls.foldlM addLine p

def loadLines (header : String) : List Text.SourceLine → Except LoadError Program
  | [] => .error ⟨none, .missingHeader⟩
  | first :: rest =>
    if first.text = header then addLines empty rest
    else .error ⟨some first.number, .invalidHeader first.text⟩

def load (header source : String) : Except LoadError Program :=
  loadLines header (Text.sourceLines source)

end Program

end Mailroom
