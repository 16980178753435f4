import Mailroom.Yaml.Cursor
import Mailroom.Yaml.Tag

/-!
# Nodes

A document is made of scalars, sequences and mappings, each with a tag. An alias stands for the very
node that its anchor names, and may stand inside it. So a document is not a tree: its nodes are
numbered, and a collection has its parts by their numbers.

Every number is that of a node. One that was never given out is that of the node where nothing is
written, so looking a node up does not fail.

A mapping can stand for a scalar: if it has the key `=`, its text is that of the value under it.
That value may be such a mapping again, and with an alias it may be the same one.
-/

set_option autoImplicit false

namespace Mailroom.Yaml

inductive Content where
  | scalar (text : List Text.Code)
  | sequence (items : List Nat)
  | mapping (entries : List (Nat × Nat))
  deriving DecidableEq, Repr

structure Node where
  tag : Tag
  content : Content
  deriving DecidableEq, Repr

/-- The node of a place where nothing is written. -/
def Node.empty : Node := ⟨.null, .scalar []⟩

abbrev Nodes := Array Node

namespace Nodes

def node (nodes : Nodes) (i : Nat) : Node := nodes.getD i .empty

def tag (nodes : Nodes) (i : Nat) : Tag := (nodes.node i).tag

def setContent (nodes : Nodes) (i : Nat) (content : Content) : Nodes :=
  nodes.setIfInBounds i { nodes.node i with content := content }

def setTag (nodes : Nodes) (i : Nat) (tag : Tag) : Nodes :=
  nodes.setIfInBounds i { nodes.node i with tag := tag }

/-- The text of a node that stands for a scalar, found in as many steps as are given. A mapping
stands for the value of its `=` key, and may in this way stand for itself, so that no number of
steps is enough. -/
def text (nodes : Nodes) : Nat → Nat → Except Error (List Text.Code)
  | 0, _ => .error (.scalar .endless)
  | steps + 1, i =>
    match (nodes.node i).content with
    | .scalar text => .ok text
    | .sequence _ => .error .malformed
    | .mapping entries =>
      match entries.find? fun (k, _) => nodes.tag k == .value with
      | some (_, v) => nodes.text steps v
      | none => .error .malformed

end Nodes

structure Document where
  nodes : Nodes
  root : Nat

end Mailroom.Yaml
