import Mailroom.Yaml.Node
import Mailroom.Yaml.Reach

/-!
# Merge keys

A merge key brings the entries of another mapping, or of several, into its own mapping. They come
before the mapping's own entries, so that those win. Among several mappings the first wins, and so
its entries come last.

Merging changes the nodes. Each merge key is taken out before its value is looked at, so a mapping
can be merged into itself and the merging still ends. In a mapping that was merged, `=` is a text
like any other key.

The recursion has two bounds. Every step takes out a merge key, so there are no more steps than
entries. The other is the room for mappings that are merged into each other, which is that of the
reader. A document that has no more merge keys than that cannot use it up.
-/

set_option autoImplicit false

namespace Mailroom.Yaml

namespace Nodes

def entries (nodes : Nodes) (i : Nat) : List (Nat × Nat) :=
  match (nodes.node i).content with
  | .mapping entries => entries
  | _ => []

/-- Takes out the first merge key. There are its value and the entries that are left. -/
def splitMerge? (nodes : Nodes) : List (Nat × Nat) → Option (Nat × List (Nat × Nat))
  | [] => none
  | (k, v) :: rest =>
    if nodes.tag k == .merge then some (v, rest)
    else (nodes.splitMerge? rest).map fun (value, left) => (value, (k, v) :: left)

/-- The nodes, with `=` as a text where it is the key of some entries. -/
def plainKeys (nodes : Nodes) (entries : List (Nat × Nat)) : Nodes :=
  entries.foldl (fun nodes (k, _) => if nodes.tag k == .value then nodes.setTag k .str else nodes)
    nodes

def mergeSources (nodes : Nodes) (value : Nat) : Except Error (List Nat) :=
  match (nodes.node value).content with
  | .mapping _ => .ok [value]
  | .sequence items => .ok items
  | .scalar _ => .error .malformed

/-- Merges each of some nodes, which have to be mappings, and collects their entries, those of the
first last. -/
def collect (merge : Nodes → Nat → Except Error Nodes) (nodes : Nodes) :
    List Nat → Except Error (Nodes × List (Nat × Nat))
  | [] => .ok (nodes, [])
  | i :: rest =>
    match (nodes.node i).content with
    | .mapping _ => do
      let nodes ← merge nodes i
      let (after, more) ← collect merge nodes rest
      return (after, more ++ nodes.entries i)
    | _ => .error .malformed

/-- Merges a mapping, after which no key of it is a merge key; `merged` are the entries brought in
so far. Every step takes out a merge key, so there are no more steps than entries. The mappings that
are brought in are merged themselves first, for which there has to be room. -/
def mergeWith : Nat → Nat → List (Nat × Nat) → Nodes → Nat → Except Error Nodes
  | 0, _, _, _, _ => .error .malformed
  | steps + 1, room, merged, nodes, i =>
    match nodes.splitMerge? (nodes.entries i) with
    | none =>
      let entries := merged ++ nodes.entries i
      .ok ((nodes.plainKeys entries).setContent i (.mapping entries))
    | some (value, left) => do
      let nodes := nodes.setContent i (.mapping left)
      let sources ← nodes.mergeSources value
      let mergeSource (nodes : Nodes) (j : Nat) : Except Error Nodes :=
        match room with
        | 0 => .error (.scalar .endless)
        | room + 1 => mergeWith steps room [] nodes j
      let (nodes, more) ← nodes.collect mergeSource sources
      mergeWith steps room (merged ++ more) nodes i

def entryCount (nodes : Nodes) : Nat :=
  nodes.foldl (fun n node =>
    match node.content with
    | .mapping entries => n + entries.length
    | _ => n) 0

def merge [Reach] (nodes : Nodes) (i : Nat) : Except Error Nodes :=
  mergeWith (nodes.entryCount + 1) Reach.merges [] nodes i

end Nodes

end Mailroom.Yaml
