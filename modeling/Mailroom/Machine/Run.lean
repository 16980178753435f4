import Mailroom.Machine.Step

/-!
# Runs

A run does one instruction after the other until the program counter leaves the program, an
instruction fails, or more instructions have been done than the cycle limit allows. The limit is
looked at after each instruction, so a run that exceeds it has done exactly one more.

The recursion is on the number of instructions that the limit still allows. With none left, one more
step is made, and if it does anything the run has exceeded the limit. So a program that has done all
that it is allowed and then halts has finished.

A run is over in a configuration (`Stopped`), and everything that is told about it is read off that
configuration: the result or the fault, the state that the machine is left in, the values that were
not taken, and the log.
-/

set_option autoImplicit false

namespace Mailroom.Machine

variable {α : Type}

/-- A run that is over: why, if it failed, and how it was left. -/
structure Stopped (α : Type) where
  fault : Option Fault
  final : Config α
  deriving Repr

/-- Runs on, with `budget` more instructions allowed. -/
def runFrom (p : Program) (limit : Nat) : Nat → Config α → Stopped α
  | 0, c =>
    match step p c with
    | .halted => ⟨none, c⟩
    | .failed fault c' => ⟨some fault, c'⟩
    | .next c' => ⟨some (.cycleLimit limit), c'⟩
  | budget + 1, c =>
    match step p c with
    | .halted => ⟨none, c⟩
    | .failed fault c' => ⟨some fault, c'⟩
    | .next c' => runFrom p limit budget c'

def checkLimit (limit : Int) : Option Nat := if limit < 1 then none else some limit.toNat

def limitMessage : String := "cycle_limit must be >= 1"

def run (p : Program) (limit : Nat) (inbox : List α) : Stopped α :=
  runFrom p limit limit (.start inbox)

/-- Runs a program on an inbox, on a machine in any state, which is reset first. -/
def rerun (p : Program) (limit : Nat) (state : State α) (inbox : List α) : Stopped α :=
  runFrom p limit limit ⟨state.reset, inbox, []⟩

structure Result (α : Type) where
  cycles : Nat
  output : List α
  deriving DecidableEq, Repr

namespace Stopped

def result (s : Stopped α) : Except Fault (Result α) :=
  match s.fault with
  | none => .ok ⟨s.final.state.cycles, s.final.state.output⟩
  | some fault => .error fault

/-- The state that the machine is left in. The result of a run that finished takes the outbox
along. -/
def left (s : Stopped α) : State α :=
  match s.fault with
  | none => { s.final.state with output := [] }
  | some _ => s.final.state

def rest (s : Stopped α) : List α := s.final.inbox

/-- The events of the run, oldest first. -/
def events (s : Stopped α) : List (Event α) := s.final.log.reverse

end Stopped

end Mailroom.Machine
