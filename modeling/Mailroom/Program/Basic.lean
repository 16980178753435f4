import Mailroom.Data.Basic
import Mailroom.Instruction

/-!
# Programs

A program is a list of slots, addressed from zero on, and a table of labels. A program that was
loaded from source has instructions in all its slots and labels between zero and its size. One that
was put together by other means may hold anything: a slot that is not an instruction, or a label
that leads out of the program.

The table keeps its labels in the order of their declaration, which is the order in which programs
are printed. Two labels may have one address. A label is looked up by its name, and the first of
that name counts; the loader sees to it that there is no second.

Addresses are integers, since nothing keeps a label from leading to a negative one. There is no slot
there.
-/

set_option autoImplicit false

namespace Mailroom

inductive Slot where
  | instruction (i : Instruction)
  /-- Something that is not an instruction. -/
  | foreign (content : Data)
  deriving Repr

/-- A slot as the log shows it. Nothing is shown of a content that cannot be written. -/
def Slot.shown : Slot → String
  | .instruction i => i.source
  | .foreign content => content.plain.getD ""

/-- Slots, and labels in the order of their declaration, each with its address. -/
structure Program where
  slots : List Slot
  labels : List (String × Int)
  deriving Repr

namespace Program

def empty : Program := ⟨[], []⟩

def size (p : Program) : Nat := p.slots.length

/-- The slot at an address, if the address lies in the program. -/
def slot? (p : Program) (address : Int) : Option Slot :=
  if address < 0 then none else p.slots[address.toNat]?

def address? (p : Program) (label : String) : Option Int := p.labels.lookup label

def addInstruction (p : Program) (i : Instruction) : Program :=
  { p with slots := p.slots ++ [.instruction i] }

def addLabel (p : Program) (name : String) : Program :=
  { p with labels := p.labels ++ [(name, (p.size : Int))] }

def declares (p : Program) (name : String) : Bool := (p.address? name).isSome

end Program

end Mailroom
