import Mailroom.Cell

/-!
# Levels

A level sets a task: test cases, each an inbox and the outbox that is wanted for it, and goals for
the size of a program and for the number of cycles it takes. A level may have no test cases at all.
The goals have no upper bound and may be zero, though no program that does anything meets a goal of
zero.

The three records have titles, by which messages refer to them, and each can be written as data.
Writing is the other direction of checking (see `Level/Check`): what a check makes of data that was
written is what was written. The cells can be written in more than one form, so the form is a
parameter.
-/

set_option autoImplicit false

namespace Mailroom

structure Goals where
  /-- The largest number of instructions. -/
  size : Nat
  /-- The largest mean number of cycles. -/
  speed : Nat
  deriving DecidableEq, Repr

/-- An inbox, and the outbox that is wanted for it. -/
structure TestCase where
  input : List Cell
  output : List Cell
  deriving DecidableEq, Repr

structure Level where
  goals : Goals
  tests : List TestCase
  deriving DecidableEq, Repr

namespace Goals

def title : String := "Goals"

def toData (g : Goals) : Data :=
  .map [("size", .int g.size), ("speed", .int g.speed)]

end Goals

namespace TestCase

def title : String := "TestCase"

def toDataWith (form : Cell → Data) (t : TestCase) : Data :=
  .map [("input", .list (t.input.map form)), ("output", .list (t.output.map form))]

def toData (t : TestCase) : Data := t.toDataWith Cell.toData

end TestCase

namespace Level

def title : String := "Level"

def toData (l : Level) : Data :=
  .map [("goals", l.goals.toData), ("tests", .list (l.tests.map TestCase.toData))]

end Level

end Mailroom
