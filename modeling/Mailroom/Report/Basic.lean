import Mailroom.Number.Decimal
import Mailroom.Report.Trial

/-!
# Reports

A report puts the trials of a level together: whether all were passed, the speed of the program,
which is its mean number of cycles, and whether the goals are met. The speed is only defined for a
program that passed at least one trial and failed none. It is the exact mean rounded to a double,
and it is compared with its goal without further rounding.

The record can also be filled by hand, with a negative size, or with trials that have no count of
cycles and yet are passed. Such a trial counts for the mean and adds nothing to it. A total that is
too large for a double is no fault of the report: the speed is then an overflow, which no goal
allows and which cannot be printed.
-/

set_option autoImplicit false

namespace Mailroom

open Machine

inductive Speed where
  /-- There is no trial, or one was failed. -/
  | undefined
  | mean (x : Binary64)
  | overflow
  deriving DecidableEq, Repr

structure Report where
  size : Int
  goals : Goals
  trials : List Trial
  deriving Repr

namespace Report

def passed (r : Report) : Bool := r.trials.all Trial.passed

/-- The cycles of all trials together. A trial without a count adds nothing. -/
def totalCycles (r : Report) : Int := r.trials.foldr (fun t sum => t.cycles.getD 0 + sum) 0

def speed (r : Report) : Speed :=
  if r.trials.isEmpty || !r.passed then .undefined
  else
    match Binary64.divInt? r.totalCycles r.trials.length with
    | some x => .mean x
    | none => .overflow

def sizeGoalMet (r : Report) : Bool := r.size ≤ r.goals.size

def speedGoalMet (r : Report) : Bool :=
  match r.speed with
  | .mean x => x.leInt r.goals.speed
  | _ => false

/-- The report of a program on a level, or the fault that ended its trials. -/
def score (p : Program) (level : Level) (limit : Nat) : Except Fault Report :=
  (judge p limit .initial level.tests).trials.map fun trials => ⟨p.size, level.goals, trials⟩

end Report

end Mailroom
