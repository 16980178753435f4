import Mailroom.Machine.State

/-!
# One instruction

`step` looks up the instruction at the program counter and does it. A step has three outcomes: the
counter is outside of the program and the run is over, the instruction was done, or it failed. A
failed instruction changes nothing but the log.

The counter may leave the program at either end, and may be led there by a label. A label that
stands behind the last instruction is the usual way to stop by a jump.

An outbox instruction empties the hand. A jump leaves it alone, and a jump is a cycle like any other
instruction.
-/

set_option autoImplicit false

namespace Mailroom.Machine

variable {α : Type}

inductive Outcome (α : Type) where
  /-- There is no instruction at the program counter. -/
  | halted
  | next (c : Config α)
  | failed (fault : Fault) (c : Config α)

def doInbox (c : Config α) : Outcome α :=
  match c.inbox with
  | [] => .failed .endOfInput c
  | v :: rest =>
    .next
      { state := { c.state with acc := some v, pc := c.state.pc + 1, cycles := c.state.cycles + 1 }
        inbox := rest
        log := .took v :: c.log }

def doOutbox (c : Config α) : Outcome α :=
  match c.state.acc with
  | none => .failed .emptyAccumulator c
  | some v =>
    .next
      { state :=
          { pc := c.state.pc + 1, acc := none, cycles := c.state.cycles + 1,
            output := c.state.output ++ [v] }
        inbox := c.inbox
        log := .gave v :: c.log }

def doJump (p : Program) (label : String) (c : Config α) : Outcome α :=
  let c := c.note (.jumping label)
  match p.address? label with
  | none => .failed (.undefinedLabel label) c
  | some address =>
    .next (c.withState { c.state with pc := address, cycles := c.state.cycles + 1 })

def execute (p : Program) (slot : Slot) (c : Config α) : Outcome α :=
  match slot with
  | .instruction .inbox => doInbox c
  | .instruction .outbox => doOutbox c
  | .instruction (.jump label) => doJump p label c
  | .foreign content => .failed (.notInstruction content.kindName) c

def step (p : Program) (c : Config α) : Outcome α :=
  match p.slot? c.state.pc with
  | none => .halted
  | some slot => execute p slot (c.note (.fetch c.state.pc slot))

end Mailroom.Machine
