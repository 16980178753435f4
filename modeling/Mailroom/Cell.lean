import Mailroom.Data.Basic
import Mailroom.Schema.Issue

/-!
# Cells

A cell is what the machine moves from the inbox to the outbox: an integer of sixteen bits. The type
carries the proof that its value is in range, so whoever has a cell never asks again.

A value becomes a cell in two ways. `Cell.ofData` takes a plain integer and nothing else, in
particular no truth value. `Cell.check` takes a mapping that is tagged with the kind of the cell;
the tag may be left out. The two disagree on how they put a fault in words. A conversion stops at
the first value that is no cell, and quotes it. A check collects issues, each with the path to the
field that it is about, and quotes nothing.

An integer that is out of range is the one fault that both know, and there it is about the field
`value` of the record, even where no record was written (`rangeIssues`).
-/

set_option autoImplicit false

namespace Mailroom

open Schema

/-- A value that the machine handles. -/
structure Cell where
  value : Int
  inRange : -32768 ≤ value ∧ value ≤ 32767
  deriving DecidableEq, Repr

namespace Cell

def least : Int := -32768

def greatest : Int := 32767

def title : String := "IntValue"

def kind : String := "int"

def shown (c : Cell) : String := toString c.value

def toData (c : Cell) : Data := .int c.value

def ofInt (n : Int) : Except Complaint Cell :=
  if low : -32768 ≤ n then
    if high : n ≤ 32767 then .ok ⟨n, low, high⟩ else .error (.above greatest)
  else .error (.below least)

section

variable {α : Type} [Layered α]

def ofStrict (a : α) : Except Complaint Cell :=
  match Layered.layer a with
  | .scalar (.int n) => ofInt n
  | _ => .error .notInteger

inductive ConversionError where
  | notInteger (shown : String)
  /-- The value is not an integer, and cannot be shown. -/
  | unshown (reason : Unshown)
  | outOfRange (complaint : Complaint)
  deriving DecidableEq, Repr

/-- The issues of an integer that no cell holds: the complaint is about the cell's value. -/
def rangeIssues (complaint : Complaint) : List Issue := [⟨[.field "value"], complaint⟩]

def ofData (a : α) : Except ConversionError Cell :=
  match Layered.layer a with
  | .scalar (.int n) =>
    match ofInt n with
    | .ok c => .ok c
    | .error complaint => .error (.outOfRange complaint)
  | _ =>
    match Layered.shown a with
    | .ok shown => .error (.notInteger shown)
    | .error reason => .error (.unshown reason)

/-- Plain integers as cells, up to the first that is not one. -/
def listOfData (as : List α) : Except ConversionError (List Cell) := as.mapM ofData

/-- The kind of a tagged cell, which may be left out. -/
def checkKind (entries : List (Scalar × α)) : Checked Unit :=
  match Layer.field? "kind" entries with
  | none => .ok ()
  | some a =>
    match Layered.layer a with
    | .scalar (.text s) => if s = kind then .ok () else complain .otherKind
    | .scalar (.brokenText _) => complain .notUnicode
    | _ => complain .otherKind

def checkValue (entries : List (Scalar × α)) : Checked Cell :=
  match Layer.field? "value" entries with
  | none => complain .missing
  | some a =>
    match ofStrict a with
    | .ok c => .ok c
    | .error complaint => complain complaint

def check (a : α) : Checked Cell :=
  match Layered.layer a with
  | .map entries =>
    match Checked.both ((checkKind entries).under (.field "kind"))
        ((checkValue entries).under (.field "value")) with
    | .ok (_, c) => .ok c
    | .error issues => .error issues
  | _ => complain (.notRecord title)

end

def showList (cs : List Cell) : String := "[" ++ ", ".intercalate (cs.map shown) ++ "]"

end Cell

end Mailroom
