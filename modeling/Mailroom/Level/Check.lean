import Mailroom.Level.Basic
import Mailroom.Schema.Integer

/-!
# Checking levels

A value is checked against the records of a level from the outside in, and every fault is reported.
Goals are lenient about how their integers are written; cells are not.

A list of cells is converted before it is checked: plain items become cells at once, and the first
that does not decides the fault of the whole list. Mappings wait for the check of tagged cells,
which tells them apart by their index. So a list with a bad plain item has one issue, which names
the list, and a list with bad mappings has an issue for each, which names the item. A set is not
converted: its items are checked as they are, so a plain integer in a set is at fault.

A check does not care what type of values it looks at, as long as they are `Layered`. The fields of
a record that are not known are ignored, a list of cells may be left out, and so may the tests.
-/

set_option autoImplicit false

namespace Mailroom

open Schema

variable {α : Type} [Layered α]

def Goals.checkGoal (name : String) (entries : List (Scalar × α)) : Checked Nat :=
  Checked.under (.field name)
    (match Layer.field? name entries with
     | none => complain .missing
     | some a =>
       match naturalOf a with
       | .ok n => .ok n
       | .error c => complain c)

def Goals.check (a : α) : Checked Goals :=
  match Layered.layer a with
  | .map entries =>
    match Checked.both (Goals.checkGoal "size" entries) (Goals.checkGoal "speed" entries) with
    | .ok (size, speed) => .ok ⟨size, speed⟩
    | .error issues => .error issues
  | _ => complain (.notRecord Goals.title)

namespace TestCase

/-- An item of a list of cells after conversion: a cell, or a value that is still to be checked. -/
inductive Item (α : Type) where
  | cell (c : Cell)
  | unchecked (a : α)

/-- Converts an item. Mappings are left for the check. -/
def convertItem (a : α) : Except Cell.ConversionError (Item α) :=
  match Layered.layer a with
  | .map _ => .ok (.unchecked a)
  | _ =>
    match Cell.ofData a with
    | .ok c => .ok (.cell c)
    | .error e => .error e

def conversionIssues : Cell.ConversionError → List Issue
  | .notInteger shown => [⟨[], .notConvertible shown⟩]
  | .unshown .unwritable => [⟨[], .unwritable⟩]
  | .unshown .tooDeep => [⟨[], .tooDeep⟩]
  | .outOfRange complaint => Cell.rangeIssues complaint

/-- Converts the items of a list of cells. A set is taken as it is. -/
def convert (a : α) : Checked (List (Item α)) :=
  match Layered.layer a with
  | .list items | .tuple items =>
    match items.mapM convertItem with
    | .ok converted => .ok converted
    | .error e => .error (conversionIssues e)
  | .set items => .ok (items.map .unchecked)
  | _ => complain .notList

def Item.check : Item α → Checked Cell
  | .cell c => .ok c
  | .unchecked a => Cell.check a

def checkCells (a : α) : Checked (List Cell) :=
  match convert a with
  | .ok items => Checked.each Item.check 0 items
  | .error issues => .error issues

/-- A field with a list of cells, empty when it is left out. -/
def checkField (name : String) (entries : List (Scalar × α)) : Checked (List Cell) :=
  Checked.under (.field name)
    (match Layer.field? name entries with
     | none => .ok []
     | some a => checkCells a)

def check (a : α) : Checked TestCase :=
  match Layered.layer a with
  | .map entries =>
    match Checked.both (checkField "input" entries) (checkField "output" entries) with
    | .ok (input, output) => .ok ⟨input, output⟩
    | .error issues => .error issues
  | _ => complain (.notRecord title)

end TestCase

namespace Level

def checkParts (goals : Checked Goals) (tests : Checked (List TestCase)) : Checked Level :=
  match Checked.both (goals.under (.field "goals")) (tests.under (.field "tests")) with
  | .ok (goals, tests) => .ok ⟨goals, tests⟩
  | .error issues => .error issues

def checkGoals (entries : List (Scalar × α)) : Checked Goals :=
  match Layer.field? "goals" entries with
  | none => complain .missing
  | some a => Goals.check a

def checkTests (entries : List (Scalar × α)) : Checked (List TestCase) :=
  match Layer.field? "tests" entries with
  | none => .ok []
  | some a =>
    match (Layered.layer a).items? with
    | some items => Checked.each TestCase.check 0 items
    | none => complain .notList

def check (a : α) : Checked Level :=
  match Layered.layer a with
  | .map entries => checkParts (checkGoals entries) (checkTests entries)
  | _ => complain (.notRecord title)

end Level

end Mailroom
