import Mailroom.Data.SetOrder
import Mailroom.Yaml.Document
import Mailroom.Yaml.Merge
import Mailroom.Yaml.Scalar
import Mailroom.Yaml.Value

/-!
# From documents to values

The value of a node lies at the place with the node's number. A scalar is converted when it is met;
a collection is only noted then, and filled later, in the order in which the collections were met.
So the faults nearest to the outermost node are found first, and a collection that contains itself
is met once.

A key has to be a scalar. Keys that are the same are one entry, which has the first key and the last
value. A value that is not a number is no key's equal, not even its own, unless the two are the same
object: all that are written as `.nan` are one, and any other is told apart by its node.

A mapping is filled after it has been merged, and merging changes the nodes of the document, so what
is filled later sees the document as it has become. The tag of a collection decides what is made of
it, and its content has to fit.
-/

set_option autoImplicit false

namespace Mailroom.Yaml

structure Builder where
  nodes : Nodes
  places : Array (Option (Layer Nat))
  /-- The collections in the order in which they were met. -/
  met : Array Nat := #[]

abbrev Building (α : Type) := StateT Builder (Except Error) α

namespace Building

def node (i : Nat) : Building Node := return (← get).nodes.node i

def put (i : Nat) (layer : Layer Nat) : Building Unit :=
  modify fun b => { b with places := b.places.setIfInBounds i (some layer) }

/-- Puts a value at a place of its own, which belongs to no node. -/
def putNew (layer : Layer Nat) : Building Nat := do
  let place := (← get).places.size
  modify fun b => { b with places := b.places.push (some layer) }
  return place

/-- The empty collection of a tag; other tags are those of scalars. -/
def emptyCollection? : Tag → Option (Layer Nat)
  | .seq => some (.list [])
  | .omap => some (.list [])
  | .pairs => some (.list [])
  | .map => some (.map [])
  | .set => some (.set [])
  | _ => none

def isScalarTag (tag : Tag) : Bool :=
  [Tag.null, .bool, .int, .float, .binary, .timestamp, .str].contains tag

variable [Reach]

def textOf (nodes : Nodes) (i : Nat) : Except Error (List Text.Code) :=
  nodes.text (Reach.texts + 1) i

/-- The value of a node that stands for a scalar. A date has to be written by the node itself. -/
def scalarOf (nodes : Nodes) (i : Nat) : Except Error Scalar := do
  let node := nodes.node i
  unless isScalarTag node.tag do throw .malformed
  let text ← textOf nodes i
  match node.tag, node.content with
  | .timestamp, .mapping _ => throw (.scalar .mappingAsTimestamp)
  | tag, _ => scalarValue tag text

def make (i : Nat) : Building (Layer Nat) := do
  match (← get).places.getD i none with
  | some layer => return layer
  | none =>
    match emptyCollection? (← node i).tag with
    | some layer =>
      put i layer
      modify fun b => { b with met := b.met.push i }
      return layer
    | none =>
      let layer := Layer.scalar (← scalarOf (← get).nodes i)
      put i layer
      return layer

/-! ## Mappings -/

structure Key where
  scalar : Scalar
  place : Nat
  /-- The node by which a key that is not a number is told apart; all that are written by the name
  of that value are one. -/
  origin : Option Nat

def Key.same (a b : Key) : Bool :=
  a.scalar.sameKey b.scalar ||
    (a.scalar == .real .nan && b.scalar == .real .nan && a.origin == b.origin)

def originOf (nodes : Nodes) (i : Nat) : Option Nat :=
  match textOf nodes i with
  | .ok text => if writesNan text then none else some i
  | .error _ => some i

def makeKey (i : Nat) : Building Key := do
  match ← make i with
  | .scalar s => return ⟨s, i, originOf (← get).nodes i⟩
  | _ => throw .malformed

/-- Entries with a key set to a value. A key that is there keeps its place among them. -/
def insert (key : Key) (value : Nat) : List (Key × Nat) → List (Key × Nat)
  | [] => [(key, value)]
  | (k, v) :: rest => if k.same key then (k, value) :: rest else (k, v) :: insert key value rest

def makeEntries (made : List (Key × Nat)) : List (Nat × Nat) → Building (List (Key × Nat))
  | [] => return made
  | (k, v) :: rest => do
    let key ← makeKey k
    let _ ← make v
    makeEntries (insert key v made) rest

def entriesOf (i : Nat) : Building (List (Key × Nat)) := do
  match (← node i).content with
  | .mapping _ =>
    let nodes ← (← get).nodes.merge i
    modify fun b => { b with nodes := nodes }
    makeEntries [] (nodes.entries i)
  | _ => throw .malformed

/-! ## Sequences -/

def itemsOf (i : Nat) : Building (List Nat) := do
  match (← node i).content with
  | .sequence items => return items
  | _ => throw .malformed

def makePair (i : Nat) : Building Nat := do
  match (← node i).content with
  | .mapping [(k, v)] =>
    let _ ← make k
    let _ ← make v
    putNew (.tuple [k, v])
  | _ => throw .malformed

/-! ## Documents -/

def fill (i : Nat) : Building Unit := do
  match (← node i).tag with
  | .map => put i (.map ((← entriesOf i).map fun (k, v) => (k.scalar, v)))
  | .set => put i (.set (SetOrder.arrange ((← entriesOf i).map fun (k, _) => (k.scalar, k.place))))
  | .seq =>
    let items ← itemsOf i
    for item in items do
      let _ ← make item
    put i (.list items)
  | _ => put i (.list (← (← itemsOf i).mapM makePair))

/-- Fills the collections from one on, and those that are met meanwhile. Each node is met once, so
there are no more steps than nodes. -/
def fillFrom (next : Nat) : Nat → Building Unit
  | 0 => return ()
  | steps + 1 => do
    match (← get).met[next]? with
    | none => return ()
    | some i =>
      fill i
      fillFrom (next + 1) steps

def document (root : Nat) : Building Unit := do
  let _ ← make root
  fillFrom 0 (← get).nodes.size

end Building

def Document.value [Reach] (d : Document) : Except Error Value := do
  let (_, b) ← (Building.document d.root).run
    { nodes := d.nodes, places := Array.replicate d.nodes.size none }
  return ⟨b.places.map (·.getD (.scalar .null)), d.root⟩

def load [Reach] (text : String) : Except Error Value := do
  match ← Document.ofText? text with
  | some d => d.value
  | none => return .null

end Mailroom.Yaml
