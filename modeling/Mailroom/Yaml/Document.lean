import Mailroom.Yaml.Node
import Mailroom.Yaml.Reach
import Mailroom.Yaml.Tokens

/-!
# From tokens to documents

The nodes of a document are numbered as they are added. A collection that an anchor may name is
added before its parts are read, so that an alias among them can stand for it, and it is filled when
they have been read. Only the one document that a text may have is read, and the text has to end
there.

Reading goes by the tokens. The recursion is bounded by four steps for each of them. That is not the
room there is for nested collections, which is set from outside and may well be used up.

What is inside a collection is read by a call of its own, so there has to be room for it. The
collections that count are those of the document: two of them have no token that opens them, namely
a sequence without a block of its own, and the mapping of one key that an item of a flow sequence
can be.
-/

set_option autoImplicit false

namespace Mailroom.Yaml

structure TokenReader where
  tokens : List Token
  nodes : Nodes := #[]
  handles : List (String × String) := []
  anchors : List (String × Nat) := []
  /-- How many more collections may be opened inside those that are open. -/
  room : Nat

abbrev Reading (α : Type) := StateT TokenReader (Except Error) α

namespace Reading

/-- The next token. There is none at the end of the text, and beyond a fault there is no looking. -/
def peek? : Reading (Option Token) := do
  match (← get).tokens.head? with
  | some (.unreadable e) => throw e
  | next => return next

def advance : Reading Unit := modify fun r => { r with tokens := r.tokens.tail }

def fail {α : Type} : Reading α := throw .malformed

def nextIs (tokens : List Token) : Reading Bool :=
  return (← peek?).any tokens.contains

def accept (token : Token) : Reading Bool := do
  let found ← nextIs [token]
  if found then advance
  return found

def expect (token : Token) : Reading Unit := do
  unless ← accept token do fail

/-! ## Nodes and names -/

def add (node : Node) : Reading Nat := do
  let place := (← get).nodes.size
  modify fun r => { r with nodes := r.nodes.push node }
  return place

def addEmpty : Reading Nat := add .empty

/-- Adds a node that an anchor may name. An anchor names one node only. -/
def addNamed (anchor : Option String) (node : Node) : Reading Nat := do
  if let some name := anchor then
    if ((← get).anchors.lookup name).isSome then fail
    let place := (← get).nodes.size
    modify fun r => { r with anchors := (name, place) :: r.anchors }
  add node

def fill (place : Nat) (content : Content) : Reading Unit :=
  modify fun r => { r with nodes := r.nodes.setContent place content }

def aliased (name : String) : Reading Nat := do
  match (← get).anchors.lookup name with
  | some place => return place
  | none => fail

def tagName (handle : Option String) (suffix : String) : Reading String := do
  match handle with
  | none => return suffix
  | some h =>
    match (← get).handles.lookup h with
    | some expansion => return expansion ++ suffix
    | none => fail

structure Properties where
  anchor : Option String := none
  tag : Option String := none

def anchor? : Reading (Option String) := do
  match ← peek? with
  | some (.anchor name) =>
    advance
    return some name
  | _ => return none

def tag? : Reading (Option (Option String × String)) := do
  match ← peek? with
  | some (.tag handle suffix) =>
    advance
    return some (handle, suffix)
  | _ => return none

def properties : Reading Properties := do
  let before ← anchor?
  let tag ← tag?
  let anchor ← if before.isNone && tag.isSome then anchor? else pure before
  let name ← tag.mapM fun (handle, suffix) => tagName handle suffix
  return ⟨anchor, name⟩

/-- The tag of a collection. The tag `!` says no more than no tag. -/
def collectionTag (plain : Tag) : Option String → Tag
  | none => plain
  | some name => if name = "!" then plain else .ofName name

def suggestedTag (text : List Text.Code) : Tag := .ofText (String.ofList (text.map (·.standIn)))

/-- The tag of a scalar. Without a tag a plain scalar has the one that its text suggests, and a
quoted one is text. The tag `!` asks for the one that the text suggests. -/
def scalarTag (text : List Text.Code) (plain : Bool) : Option String → Tag
  | none => if plain then suggestedTag text else .str
  | some name => if name = "!" then suggestedTag text else .ofName name

def addScalar (p : Properties) (text : List Text.Code) (plain : Bool) : Reading Nat :=
  addNamed p.anchor ⟨scalarTag text plain p.tag, .scalar text⟩

def inside {α : Type} (parts : Reading α) : Reading α := do
  match (← get).room with
  | 0 => throw (.scalar .endless)
  | room + 1 =>
    modify fun r => { r with room := room }
    let found ← parts
    modify fun r => { r with room := room + 1 }
    return found

def addSequence (p : Properties) (items : Reading (List Nat)) : Reading Nat := do
  let place ← addNamed p.anchor ⟨collectionTag .seq p.tag, .sequence []⟩
  fill place (.sequence (← inside items))
  return place

def addMapping (p : Properties) (entries : Reading (List (Nat × Nat))) : Reading Nat := do
  let place ← addNamed p.anchor ⟨collectionTag .map p.tag, .mapping []⟩
  fill place (.mapping (← inside entries))
  return place

/-! ## Collections -/

mutual

/-- Reads a node. Block collections may stand in a block only, and entries without a block of their
own only in a mapping. -/
def node : Nat → Bool → Bool → Reading Nat
  | 0, _, _ => fail
  | n + 1, block, indentless => do
    match ← peek? with
    | some (.alias name) =>
      advance
      aliased name
    | _ =>
      let p ← properties
      match ← peek?, block, indentless with
      | some .blockEntry, _, true => addSequence p (indentlessItems n)
      | some (.scalar text plain), _, _ =>
        advance
        addScalar p text plain
      | some .flowSequenceStart, _, _ =>
        advance
        addSequence p (flowItems n true)
      | some .flowMappingStart, _, _ =>
        advance
        addMapping p (flowEntries n true)
      | some .blockSequenceStart, true, _ =>
        advance
        addSequence p (blockItems n)
      | some .blockMappingStart, true, _ =>
        advance
        addMapping p (blockEntries n)
      | _, _, _ => if p.anchor.isSome || p.tag.isSome then addScalar p [] true else fail

/-- Reads a node, unless one of some tokens shows that nothing is written here. -/
def nodeUnless : Nat → List Token → Bool → Bool → Reading Nat
  | 0, _, _, _ => fail
  | n + 1, stops, block, indentless => do
    if ← nextIs stops then addEmpty else node n block indentless

def blockItems : Nat → Reading (List Nat)
  | 0 => fail
  | n + 1 => do
    if ← accept .blockEntry then
      let item ← nodeUnless n [.blockEntry, .blockEnd] true false
      return item :: (← blockItems n)
    else
      expect .blockEnd
      return []

def indentlessItems : Nat → Reading (List Nat)
  | 0 => fail
  | n + 1 => do
    if ← accept .blockEntry then
      let item ← nodeUnless n [.blockEntry, .key, .value, .blockEnd] true false
      return item :: (← indentlessItems n)
    else return []

def blockEntries : Nat → Reading (List (Nat × Nat))
  | 0 => fail
  | n + 1 => do
    if ← accept .key then
      let k ← nodeUnless n [.key, .value, .blockEnd] true true
      let v ←
        if ← accept .value then nodeUnless n [.key, .value, .blockEnd] true true
        else addEmpty
      return (k, v) :: (← blockEntries n)
    else
      expect .blockEnd
      return []

/-- Reads the entries of a flow sequence. An entry with a colon is a mapping of one key. -/
def flowItems : Nat → Bool → Reading (List Nat)
  | 0, _ => fail
  | n + 1, first => do
    if ← accept .flowSequenceEnd then return []
    unless first do expect .flowEntry
    if ← accept .key then
      let entry ← inside do
        let k ← nodeUnless n [.value, .flowEntry, .flowSequenceEnd] false false
        let v ←
          if ← accept .value then nodeUnless n [.flowEntry, .flowSequenceEnd] false false
          else addEmpty
        return (k, v)
      let item ← add ⟨.map, .mapping [entry]⟩
      return item :: (← flowItems n false)
    else if ← accept .flowSequenceEnd then return []
    else
      let item ← node n false false
      return item :: (← flowItems n false)

/-- Reads the entries of a flow mapping. A key without a colon has no value. -/
def flowEntries : Nat → Bool → Reading (List (Nat × Nat))
  | 0, _ => fail
  | n + 1, first => do
    if ← accept .flowMappingEnd then return []
    unless first do expect .flowEntry
    if ← accept .key then
      let k ← nodeUnless n [.value, .flowEntry, .flowMappingEnd] false false
      let v ←
        if ← accept .value then nodeUnless n [.flowEntry, .flowMappingEnd] false false
        else addEmpty
      return (k, v) :: (← flowEntries n false)
    else if ← accept .flowMappingEnd then return []
    else
      let k ← node n false false
      let v ← addEmpty
      return (k, v) :: (← flowEntries n false)

end

/-! ## Documents -/

def commonHandles : List (String × String) := [("!", "!"), ("!!", Tag.common)]

/-- Reads the directives of a document: one version at most, of the first major one, and each handle
once. -/
def directives : Nat → Bool → List (String × String) → Reading (List (String × String))
  | 0, _, handles => return handles
  | n + 1, versioned, handles => do
    match ← peek? with
    | some (.directive d) =>
      advance
      match d with
      | .version major =>
        if versioned || major != 1 then fail
        directives n true handles
      | .tagHandle handle expansion =>
        if (handles.lookup handle).isSome then fail
        directives n versioned ((handle, expansion) :: handles)
      | .other => directives n versioned handles
    | _ => return handles

def documentStart : Reading Unit := do
  let handles ← directives (← get).tokens.length false []
  expect .documentStart
  modify fun r => { r with handles := handles ++ commonHandles }

/-- Whether the next token belongs to no node: a directive or a document mark. -/
def atDocumentEdge : Reading Bool := do
  match ← peek? with
  | some (.directive _) => return true
  | some .documentStart => return true
  | some .documentEnd => return true
  | none => return true
  | _ => return false

/-- Reads the marks that end a document, after which the text ends. The start of another document is
still read. -/
def documentEnd : Reading Unit := do
  modify fun r => { r with tokens := r.tokens.dropWhile (· == .documentEnd) }
  unless (← peek?).isNone do
    documentStart
    fail

def document : Reading (Option Nat) := do
  let depth := 4 * ((← get).tokens.length + 1)
  match ← peek? with
  | none => return none
  | some first =>
    let explicit := match first with
      | .directive _ => true
      | .documentStart => true
      | _ => false
    let root ←
      if explicit then do
        documentStart
        if ← atDocumentEdge then addEmpty else node depth true false
      else do
        modify fun r => { r with handles := commonHandles }
        node depth true false
    documentEnd
    return some root

end Reading

def Document.ofText? [Reach] (text : String) : Except Error (Option Document) := do
  let (root, reader) ← Reading.document.run { tokens := tokens text, room := Reach.nodes }
  return root.map fun i => ⟨reader.nodes, i⟩

end Mailroom.Yaml
