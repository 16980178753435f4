import Mailroom.Data.Scalar

/-!
# Values, one layer at a time

Whoever checks a value looks at it from the outside in: first what it is, and then, if it has parts,
at each of them. `Layer α` is what is seen at once, a scalar or a collection whose parts are values
of type `α`. A type of values is `Layered` if each of its values can be seen in this way.

So a check works alike on values that are trees and on values that are places in a document, where a
collection may be shared or even contain itself. Tuples and sets are kinds of their own, because
some places take a list and no other collection.

A message can quote a value, and here too a layer is enough: `shownWith` gives the form of a value
whose parts are shown by somebody else. It is up to the type of values to tie the knot. There are
two reasons why a value cannot be quoted (`Unshown`). It holds an integer with too many digits, or
it goes on inwards beyond what there is room for. Of a collection inside itself only dots are shown,
so that alone is no reason.
-/

set_option autoImplicit false

namespace Mailroom

inductive Unshown where
  /-- It holds an integer with too many digits. -/
  | unwritable
  | tooDeep
  deriving DecidableEq, Repr

/-- What is seen of a value at once. The keys of a mapping are scalars. -/
inductive Layer (α : Type) where
  | scalar (s : Scalar)
  | list (items : List α)
  | tuple (items : List α)
  | set (items : List α)
  | map (entries : List (Scalar × α))
  deriving DecidableEq, Repr

namespace Layer

variable {α β : Type}

def withParts (f : α → β) : Layer α → Layer β
  | .scalar s => .scalar s
  | .list items => .list (items.map f)
  | .tuple items => .tuple (items.map f)
  | .set items => .set (items.map f)
  | .map entries => .map (entries.map fun (k, v) => (k, f v))

def kindName : Layer α → String
  | .scalar s => s.kindName
  | .list _ => "list"
  | .tuple _ => "tuple"
  | .set _ => "set"
  | .map _ => "dict"

def isBlank : Layer α → Bool
  | .scalar s => s.isBlank
  | .list items => items.isEmpty
  | .tuple items => items.isEmpty
  | .set items => items.isEmpty
  | .map entries => entries.isEmpty

def items? : Layer α → Option (List α)
  | .list items => some items
  | .tuple items => some items
  | .set items => some items
  | _ => none

def lookup? (key : Scalar) : List (Scalar × α) → Option α
  | [] => none
  | (k, v) :: rest => if k.sameKey key then some v else lookup? key rest

def field? (name : String) (entries : List (Scalar × α)) : Option α := lookup? (.text name) entries

/-! ## The form in which messages quote a value -/

/-- A form that is missing only if an integer has too many digits. -/
def written : Option String → Except Unshown String
  | some text => .ok text
  | none => .error .unwritable

def commaSeparated (parts : List String) : String := ", ".intercalate parts

def listText (parts : List String) : String := "[" ++ commaSeparated parts ++ "]"

/-- A tuple of shown items. A single item has a comma after it. -/
def tupleText : List String → String
  | [part] => "(" ++ part ++ ",)"
  | parts => "(" ++ commaSeparated parts ++ ")"

def setText : List String → String
  | [] => "set()"
  | parts => "\x7b" ++ commaSeparated parts ++ "\x7d"

def entryText (key value : String) : String := key ++ ": " ++ value

def mapText (parts : List String) : String := "\x7b" ++ commaSeparated parts ++ "\x7d"

def entryShown (part : α → Except Unshown String) (entry : Scalar × α) :
    Except Unshown String := do
  return entryText (← written entry.1.shown) (← part entry.2)

def shownWith (part : α → Except Unshown String) : Layer α → Except Unshown String
  | .scalar s => written s.shown
  | .list items => (items.mapM part).map listText
  | .tuple items => (items.mapM part).map tupleText
  | .set items => (items.mapM part).map setText
  | .map entries => (entries.mapM (entryShown part)).map mapText

/-- What is shown of a collection where it stands inside itself. -/
def dots : Layer α → String
  | .scalar _ => "..."
  | .list _ => "[...]"
  | .tuple _ => "(...)"
  | .set _ => "set(...)"
  | .map _ => "\x7b...\x7d"

end Layer

/-- A type of values that can be seen one layer at a time, and that messages can quote. -/
class Layered (α : Type) where
  layer : α → Layer α
  shown : α → Except Unshown String

end Mailroom
