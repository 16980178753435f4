import Mailroom.Data.Layer

/-!
# Data

`Data` is a value as a request holds it before anything is known about its shape: a tree of scalars,
lists and mappings. Mappings keep the order of their entries, and their keys are texts.

Data is one of two kinds of values that a level is read from. The other kind, the values of a YAML
document, can be shared and can contain themselves, so what both are checked by is stated for any
type of values (`Layered`). Data is the simple case: it is a tree, its shown form is a recursion
over it, and that form is missing only if an integer in it has too many digits.
-/

set_option autoImplicit false

namespace Mailroom

inductive Data where
  | scalar (s : Scalar)
  | list (items : List Data)
  | map (entries : List (String × Data))
  deriving Inhabited, Repr

namespace Data

abbrev int (n : Int) : Data := .scalar (.int n)

abbrev text (s : String) : Data := .scalar (.text s)

def layer : Data → Layer Data
  | .scalar s => .scalar s
  | .list items => .list items
  | .map entries => .map (entries.map fun (k, v) => (.text k, v))

mutual

def shown : Data → Option String
  | .scalar s => s.shown
  | .list items => (shownItems items).map Layer.listText
  | .map entries => (shownEntries entries).map Layer.mapText

def shownItems : List Data → Option (List String)
  | [] => some []
  | d :: ds => do return (← d.shown) :: (← shownItems ds)

def shownEntries : List (String × Data) → Option (List String)
  | [] => some []
  | (k, v) :: rest => do
    return Layer.entryText (Text.quoted k) (← v.shown) :: (← shownEntries rest)

end

instance : Layered Data := ⟨layer, fun d => Layer.written d.shown⟩

/-- A value on its own, where a text stands for itself. -/
def plain : Data → Option String
  | .scalar (.text s) => some s
  | d => d.shown

def kindName (d : Data) : String := d.layer.kindName

end Data

end Mailroom
