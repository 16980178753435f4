import Mailroom.Data.ScalarError
import Mailroom.Schema.Issue
import Mailroom.Text.Utf8

/-!
# Faults of levels

A level that cannot be read has a fault of the level, with a message for its author, or holds a
scalar that stands for no value. The two are kept apart because only the first is the level's own:
`LevelError` is what a command reports, and the other goes past it.

Only the text format has lines that can be wrong, and there every fault of a line has the line's
number in front. What a level holds is checked in both formats, and a level that fails that check
has one message for everything; the list of issues is kept beside it. Of a text that is not YAML no
more is said than that.
-/

set_option autoImplicit false

namespace Mailroom

inductive LineFault where
  | duplicateSection (name : String)
  | outsideSection (text : String)
  | invalidNumber (token : String)
  | unexpected (text : String)
  deriving DecidableEq, Repr

def LineFault.message : LineFault → String
  | .duplicateSection name => "duplicate section " ++ Text.quoted name
  | .outsideSection text => "statement outside of a section: " ++ Text.quoted text
  | .invalidNumber token => "invalid number " ++ Text.quoted token
  | .unexpected text => "unexpected statement " ++ Text.quoted text

inductive LevelError where
  | atLine (line : Nat) (fault : LineFault)
  | missingGoals
  | incompleteGoals
  | notMapping
  | testsNotList
  /-- The record of this title does not hold what it should. -/
  | invalid (title : String) (issues : List Schema.Issue)
  /-- The text is not YAML. -/
  | malformed
  | notUtf8 (e : Text.Utf8Error)
  deriving DecidableEq, Repr

def LevelError.message : LevelError → String
  | .atLine line fault => s!"line {line}: " ++ fault.message
  | .missingGoals => "level is missing a goals section"
  | .incompleteGoals => "goals must define size and speed"
  | .notMapping => "level must be a YAML mapping"
  | .testsNotList => "level.tests must be a list"
  | .invalid _ _ => "invalid level"
  | .malformed => "invalid YAML"
  | .notUtf8 e => "level is not valid UTF-8: " ++ e.message

inductive LevelFailure where
  | level (e : LevelError)
  | scalar (e : ScalarError)
  deriving DecidableEq, Repr

end Mailroom
