import Mailroom.Level.Basic
import Mailroom.Machine.Run

/-!
# Trials of a program

A trial is what came of running a program on one test case. The trials of a level are made one after
the other on the same machine, which is left in some state by each and reset before the next. That
no trial can see what the others did is proved in `Proofs/Report/Trials`; it is not something that
is built in.

A fault of the program makes a failed trial, with the message of the fault. A slot that is not an
instruction is no fault of the program: it ends all trials, those that were made before are lost,
and the machine is left as that slot left it.
-/

set_option autoImplicit false

namespace Mailroom

open Machine

/-- A test case and what came of it: an output and a number of cycles, or an error. -/
structure Trial where
  index : Int
  input : List Cell
  expected : List Cell
  output : Option (List Cell)
  cycles : Option Int
  error : Option String
  deriving DecidableEq, Repr

namespace Trial

def passed (t : Trial) : Bool := t.error.isNone && t.output == some t.expected

def ofResult (index : Nat) (test : TestCase) : Except Fault (Result Cell) → Trial
  | .ok r => ⟨index, test.input, test.output, some r.output, some r.cycles, none⟩
  | .error fault => ⟨index, test.input, test.output, none, none, some fault.message⟩

end Trial

/-- The trials of some test cases: the trials, or the fault that ended them all, with the state in
which they left the machine and what it wrote to the log. -/
structure Judgement where
  trials : Except Fault (List Trial)
  state : State Cell
  events : List (Event Cell)

/-- Tries a program on test cases, numbered from `index` on. A fault of the program itself makes a
failed trial; a slot that is not an instruction ends everything. -/
def judgeFrom (p : Program) (limit : Nat) : Nat → State Cell → List TestCase → Judgement
  | _, state, [] => ⟨.ok [], state, []⟩
  | index, state, test :: rest =>
    let stopped := rerun p limit state test.input
    let after := judgeFrom p limit (index + 1) stopped.left rest
    match stopped.fault with
    -- the cases behind this one are not tried, so nothing of `after` is used
    | some (.notInstruction kind) =>
      ⟨.error (.notInstruction kind), stopped.left, stopped.events⟩
    | _ =>
      { trials := after.trials.map (Trial.ofResult index test stopped.result :: ·)
        state := after.state
        events := stopped.events ++ after.events }

def judge (p : Program) (limit : Nat) (state : State Cell) (tests : List TestCase) : Judgement :=
  judgeFrom p limit 0 state tests

end Mailroom
