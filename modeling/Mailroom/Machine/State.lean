import Mailroom.Program.Basic

/-!
# The state of the machine

The machine has a program counter, one value in hand or none, a count of the cycles it has taken and
an outbox. What it handles is never looked at, so the state is the same for every type of values.

A run also has an inbox, which is used up from the front, and writes a log. The log is kept with its
newest event first. There is an event for each slot that is looked up, and one for what comes of it.
That of a jump is written before the label is looked up, so a jump to a label that is not there is
in the log.

Of the five faults four are the doing of the program or of its input. The fifth is that a slot holds
no instruction at all, which cannot happen to a program that was loaded from source.
-/

set_option autoImplicit false

namespace Mailroom.Machine

variable {α : Type}

/-- What the machine holds between two instructions. -/
structure State (α : Type) where
  pc : Int
  /-- The value in hand. -/
  acc : Option α
  cycles : Nat
  /-- The outbox, in the order of putting. -/
  output : List α
  deriving DecidableEq, Repr

def State.initial : State α := ⟨0, none, 0, []⟩

/-- The state with all that a run leaves behind taken out of it. -/
def State.reset (s : State α) : State α :=
  { s with acc := none, cycles := 0, pc := 0, output := [] }

inductive Event (α : Type) where
  | fetch (pc : Int) (slot : Slot)
  | took (value : α)
  | gave (value : α)
  | jumping (label : String)
  deriving Repr

def Event.shown (showValue : α → String) : Event α → String
  | .fetch pc slot => s!"pc={pc} op=" ++ slot.shown
  | .took value => "inbox: " ++ showValue value
  | .gave value => "outbox: " ++ showValue value
  | .jumping label => "jump to " ++ label

inductive Fault where
  | endOfInput
  | emptyAccumulator
  | undefinedLabel (label : String)
  | cycleLimit (limit : Nat)
  /-- The slot, of this kind, is not an instruction. -/
  | notInstruction (kind : String)
  deriving DecidableEq, Repr

def Fault.message : Fault → String
  | .endOfInput => "attempted to read past the end of the input"
  | .emptyAccumulator =>
    "attempted to run an instruction that reads from the accumulator, " ++
      "but the accumulator is empty"
  | .undefinedLabel label => "undefined label \"" ++ label ++ "\""
  | .cycleLimit limit => s!"maximum cycle count exceeded (limit {limit})"
  | .notInstruction kind => "unknown op: " ++ kind

/-- Whether a fault comes from the program's own doing, as opposed to a slot that no program
loaded from source has. -/
def Fault.isProgramFault : Fault → Bool
  | .notInstruction _ => false
  | _ => true

structure Config (α : Type) where
  state : State α
  inbox : List α
  /-- The events so far, newest first. -/
  log : List (Event α)
  deriving Repr

def Config.start (inbox : List α) : Config α := ⟨.initial, inbox, []⟩

def Config.note (c : Config α) (e : Event α) : Config α := { c with log := e :: c.log }

def Config.withState (c : Config α) (s : State α) : Config α := { c with state := s }

end Mailroom.Machine
