import Mailroom.Program.Load

/-!
# Printing programs

The source form of a program: the header, then at each address the labels that stand for it, in the
order of the table, and the instruction there, and at last the labels of the end. Labels that lead
out of the program have no place in it and are not printed.

Printing is the other direction of loading, for programs that could have been loaded:
`Proofs/Program/Print` has the round trip. The labels of the table are printed by address, so
they are declared in another order than that of the table if the table is not sorted.
-/

set_option autoImplicit false

namespace Mailroom.Program

def labelLines (p : Program) (address : Nat) : List String :=
  (p.labels.filter fun l => l.2 == (address : Int)).map fun l => l.1 ++ ":"

/-- The lines of slots from an address on, each after the labels of its address. -/
def slotLines (p : Program) : Nat → List Slot → List String
  | address, [] => p.labelLines address
  | address, s :: rest => p.labelLines address ++ s.shown :: slotLines p (address + 1) rest

def bodyLines (p : Program) : List String := slotLines p 0 p.slots

def print (header : String) (p : Program) : String := Text.joinLines (header :: p.bodyLines)

end Mailroom.Program
