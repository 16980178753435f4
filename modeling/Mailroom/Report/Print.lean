import Mailroom.Report.Basic
import Mailroom.Text.Line
import Mailroom.Text.Numeral

/-!
# Printing reports

A report is printed as a few lines for each trial, an empty line, and four lines that sum it up. A
trial that ended in an error has its message and nothing else. Any other has its outbox and its
cycles, and the outbox that was wanted if it is not the one that came.

An integer is only printed if it has no more digits than are converted, so printing can fail, and so
can the printing of a speed that is no double. The first number that cannot be printed decides: the
trials come before the summary, and the speed comes before the sizes.
-/

set_option autoImplicit false

namespace Mailroom

inductive PrintError where
  | speedOverflow
  | digitLimit
  deriving DecidableEq, Repr

def PrintError.message : PrintError → String
  | .speedOverflow => "integer division result too large for a float"
  | .digitLimit => Text.unwritableMessage

def decimal (n : Int) : Except PrintError String :=
  match Text.writeDecimal? n with
  | some text => .ok text
  | none => .error .digitLimit

/-- The speed with two places, a half going to the even digit. -/
def speedText (x : Binary64) : String := x.fixed 2

def cyclesText : Option Int → Except PrintError String
  | some n => decimal n
  | none => .ok "None"

def Trial.outcomeLines (t : Trial) (goal : Nat) : Except PrintError (List String) := do
  let cycles ← cyclesText t.cycles
  let goalText ← decimal goal
  let output := (t.output.map Cell.showList).getD "-"
  let expected := if t.passed then [] else ["  Expected: " ++ Cell.showList t.expected]
  return ["  Outbox: " ++ output] ++ expected ++ ["  Cycles: " ++ cycles ++ s!" [goal {goalText}]"]

def Trial.lines (t : Trial) (goal : Nat) : Except PrintError (List String) := do
  let number ← decimal (t.index + 1)
  let heading := "Test " ++ number ++ (if t.passed then ": PASS" else ": FAIL")
  match t.error with
  | some e => return [heading, "  Error: " ++ e]
  | none => return heading :: (← t.outcomeLines goal)

namespace Report

def goalWord (met : Bool) : String := if met then "met" else "missed"

def speedShown (r : Report) : Except PrintError String :=
  match r.speed with
  | .undefined => .ok "-"
  | .mean x => .ok (speedText x)
  | .overflow => .error .speedOverflow

def summaryLines (r : Report) : Except PrintError (List String) := do
  let speed ← r.speedShown
  let size ← decimal r.size
  let sizeGoal ← decimal r.goals.size
  let speedGoal ← decimal r.goals.speed
  return [
    "",
    "Instructions: " ++ size ++ s!" [goal {sizeGoal}] size_goal=" ++ goalWord r.sizeGoalMet,
    "Speed: " ++ speed ++ s!" [goal {speedGoal}] speed_goal=" ++ goalWord r.speedGoalMet,
    if r.passed then "Success!" else "Failed."]

def lines (r : Report) : Except PrintError (List String) := do
  let trials ← r.trials.mapM (·.lines r.goals.speed)
  return trials.flatten ++ (← r.summaryLines)

def text (r : Report) : Except PrintError String :=
  r.lines.map Text.joinLines

end Report

end Mailroom
