import Mailroom.Data.ScalarError

/-!
# Issues found in data

Checking data against a record does not stop at the first fault: every field is checked, and the
faults come out as a list of issues, each with the place where it was found. `Checked` is the result
of a check, and the combinators below keep the issues of all parts in order.

A place is a path from the data that was checked down to the part that is at fault, by the names of
fields and the positions in lists. A check does not know where its data stands. It is `under` that
puts a place in front of all the issues of a part, so each path is written by those who take the
data apart, one step each.

A complaint has a code, for programs, and a message, for people. The message names no place, and all
that it says about the data is in the complaint: a bound that was passed, or the data itself in the
form in which it is shown.
-/

set_option autoImplicit false

namespace Mailroom.Schema

inductive Place where
  | field (name : String)
  | item (index : Nat)
  deriving DecidableEq, Repr

inductive Complaint where
  | missing
  | notRecord (title : String)
  | notList
  | notInteger
  | unreadable
  | notUnicode
  /-- A text or number beyond the size that is converted. -/
  | oversized
  | fractional
  | notFinite
  | below (least : Int)
  | above (greatest : Int)
  /-- A tagged cell of another kind than `int`. -/
  | otherKind
  | notConvertible (shown : String)
  | unwritable
  /-- A value that is not a cell's and is nested too deep to be shown. No list of issues is reported
  that has this one in it. -/
  | tooDeep
  deriving DecidableEq, Repr

structure Issue where
  path : List Place
  complaint : Complaint
  deriving DecidableEq, Repr

def Complaint.code : Complaint → String
  | .missing => "missing"
  | .notRecord _ => "model_type"
  | .notList => "list_type"
  | .notInteger => "int_type"
  | .unreadable => "int_parsing"
  | .notUnicode => "string_unicode"
  | .oversized => "int_parsing_size"
  | .fractional => "int_from_float"
  | .notFinite => "finite_number"
  | .below _ => "greater_than_equal"
  | .above _ => "less_than_equal"
  | .otherKind => "literal_error"
  | .notConvertible _ => "value_error"
  | .unwritable => "value_error"
  | .tooDeep => "recursion_error"

def notConvertibleMessage (shown : String) : String := "cannot convert " ++ shown ++ " to a value"

def Complaint.message : Complaint → String
  | .missing => "Field required"
  | .notRecord title => "Input should be a valid dictionary or instance of " ++ title
  | .notList => "Input should be a valid list"
  | .notInteger => "Input should be a valid integer"
  | .unreadable => "Input should be a valid integer, unable to parse string as an integer"
  | .notUnicode =>
    "Input should be a valid string, unable to parse raw data as a unicode string"
  | .oversized => "Unable to parse input string as an integer, exceeded maximum size"
  | .fractional => "Input should be a valid integer, got a number with a fractional part"
  | .notFinite => "Input should be a finite number"
  | .below least => s!"Input should be greater than or equal to {least}"
  | .above greatest => s!"Input should be less than or equal to {greatest}"
  | .otherKind => "Input should be 'int'"
  | .notConvertible shown => "Value error, " ++ notConvertibleMessage shown
  | .unwritable => "Value error, " ++ Text.unwritableMessage
  | .tooDeep => ScalarError.message .unquotable

/-- A checked value, or everything that is wrong with it. -/
abbrev Checked (α : Type) := Except (List Issue) α

def complain {α : Type} (c : Complaint) : Checked α := .error [⟨[], c⟩]

def Checked.under {α : Type} (place : Place) : Checked α → Checked α
  | .ok a => .ok a
  | .error issues => .error (issues.map fun i => { i with path := place :: i.path })

def Checked.both {α β : Type} : Checked α → Checked β → Checked (α × β)
  | .ok a, .ok b => .ok (a, b)
  | .ok _, .error issues => .error issues
  | .error issues, .ok _ => .error issues
  | .error issues, .error more => .error (issues ++ more)

def Checked.each {α β : Type} (check : α → Checked β) (start : Nat) : List α → Checked (List β)
  | [] => .ok []
  | a :: as =>
    match Checked.both ((check a).under (.item start)) (Checked.each check (start + 1) as) with
    | .ok (b, bs) => .ok (b :: bs)
    | .error issues => .error issues

end Mailroom.Schema
