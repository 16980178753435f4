import Mailroom.Level.Text
import Mailroom.Yaml.Load

/-!
# Levels written in YAML

A level is a mapping with the keys `goals` and `tests`. A level without tests, or with nothing under
that key, has none. Other keys are ignored.

These things are looked at before the records are checked, and so is that the tests are a list. Each
has a message of its own. Whatever is wrong further inside is found by the check, which reports all
of it at once.

There are faults that are not the level's. A scalar that its tag promises and its text does not keep
is one, and a document that is nested too deep is another. They go past those who expect a fault of
the level (`LevelFailure.scalar`).
-/

set_option autoImplicit false

namespace Mailroom.Level

variable {α : Type} [Layered α]

def testsOf (entries : List (Scalar × α)) : Except LevelFailure (List α) :=
  match Layer.field? "tests" entries with
  | none => .ok []
  | some tests =>
    match Layered.layer tests with
    | .list items => .ok items
    | layer => if layer.isBlank then .ok [] else .error (.level .testsNotList)

def ofData (a : α) : Except LevelFailure Level :=
  match Layered.layer a with
  | .map entries =>
    match Layer.field? "goals" entries with
    | none => .error (.level .missingGoals)
    | some goals =>
      match testsOf entries with
      | .error e => .error e
      | .ok tests =>
        checked Level.title
          (Level.checkParts (Goals.check goals) (Schema.Checked.each TestCase.check 0 tests))
  | _ => .error (.level .notMapping)

def ofYaml [Yaml.Reach] (text : String) : Except LevelFailure Level :=
  match Yaml.load text with
  | .ok data => ofData data
  | .error .malformed => .error (.level .malformed)
  | .error (.scalar e) => .error (.scalar e)

end Mailroom.Level
