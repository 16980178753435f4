import Mailroom.Proofs.Yaml.Tokens
import Mailroom.Yaml.Document

/-!
# What reading a document can fail with

A document is read from tokens, and none of its steps looks into a scalar. So a fault of a scalar is
either passed on from the tokens, which end with it, or says that the collections are nested too
deep.

How deep they are nested can be read off the tokens (`nesting`), but for the collections that no
token opens. Such a collection is always directly inside one that a token opens, so there are at
most twice as many of all collections as of those. Every step that reads tokens is described by how
many collections are open before it and after it, and by how much room is left (`Reads`). If there
is none, the reach is less than twice the nesting (`blame_of_ofText?`).
-/

set_option autoImplicit false

namespace Mailroom.Yaml

/-! ## Nesting -/

def Token.depthAfter : Token → Nat → Nat
  | .blockSequenceStart, depth | .blockMappingStart, depth => depth + 1
  | .flowSequenceStart, depth | .flowMappingStart, depth => depth + 1
  | .blockEnd, depth | .flowSequenceEnd, depth | .flowMappingEnd, depth => depth - 1
  | _, depth => depth

/-- How many collections tokens open at most inside each other, where so many are open already. -/
def nestingFrom : Nat → List Token → Nat
  | depth, [] => depth
  | depth, t :: ts => max depth (nestingFrom (t.depthAfter depth) ts)

def nesting (tokens : List Token) : Nat := nestingFrom 0 tokens

theorem le_nestingFrom (depth : Nat) (tokens : List Token) : depth ≤ nestingFrom depth tokens := by
  cases tokens with
  | nil => exact le_rfl
  | cons t ts => exact le_max_left _ _

theorem nestingFrom_dropWhile_le (depth : Nat) (tokens : List Token) :
    nestingFrom depth (tokens.dropWhile (· == .documentEnd)) ≤ nestingFrom depth tokens := by
  induction tokens with
  | nil => exact le_rfl
  | cons t ts ih =>
    rw [List.dropWhile_cons]
    split
    · rename_i ht
      obtain rfl := beq_iff_eq.mp ht
      exact ih.trans (le_max_right _ _)
    · exact le_rfl

/-! ## Reading -/

/-- What reading these tokens may fail with, other than that they are malformed. -/
inductive Unread [Reach] (tokens : List Token) : ScalarError → Prop where
  | listed {e : ScalarError} (h : .unreadable (.scalar e) ∈ tokens) : Unread tokens e
  | nested (h : Reach.nodes < 2 * nesting tokens) : Unread tokens .endless

/-- The tokens that are left are some of these. So many collections are open, and there is room for
so many more. -/
structure TokenReader.At (tokens : List Token) (depth room : Nat) (r : TokenReader) : Prop where
  among : ∀ t ∈ r.tokens, t ∈ tokens
  nested : nestingFrom depth r.tokens ≤ nesting tokens
  room_eq : r.room = room

theorem TokenReader.At.depth_le {tokens : List Token} {depth room : Nat} {r : TokenReader}
    (h : r.At tokens depth room) : depth ≤ nesting tokens :=
  (le_nestingFrom _ _).trans h.nested

theorem TokenReader.At.of_eq {tokens : List Token} {depth room : Nat} {r r' : TokenReader}
    (h : r.At tokens depth room) (htokens : r'.tokens = r.tokens) (hroom : r'.room = r.room) :
    r'.At tokens depth room :=
  ⟨htokens ▸ h.among, htokens ▸ h.nested, hroom.trans h.room_eq⟩

/-- A step that reads some of these tokens, from one depth to another. It leaves as much room as it
was given. -/
abbrev Reads [Reach] {α : Type} (tokens : List Token) (depth room depth' : Nat) (m : Reading α) :
    Prop :=
  Takes (TokenReader.At tokens depth room) (Unread tokens)
    (fun _ => TokenReader.At tokens depth' room) m

namespace Reading

variable [Reach] {tokens : List Token} {depth room depth' : Nat} {α : Type}

theorem reads_fail : Reads tokens depth room depth' (fail : Reading α) := takes_throw

theorem reads_modify {g : TokenReader → TokenReader} (htokens : ∀ r, (g r).tokens = r.tokens)
    (hroom : ∀ r, (g r).room = r.room) :
    Reads tokens depth room depth (modify g : Reading PUnit) :=
  takes_modify fun r hr => hr.of_eq (htokens r) (hroom r)

theorem reads_get : Reads tokens depth room depth (get : Reading TokenReader) :=
  takes_get.mono (fun _ hr => hr) fun _ _ h => h.2

/-- Only a look at the next token can find a fault of the text. -/
theorem takes_peek? :
    Takes (TokenReader.At tokens depth room) (Unread tokens)
      (fun next r => r.At tokens depth room ∧ next = r.tokens.head?) peek? := by
  refine takes_bind takes_get fun r => ?_
  split
  · rename_i e hhead
    rintro _ ⟨rfl, hr⟩
    have hmem : .unreadable e ∈ tokens := hr.among _ (List.mem_of_mem_head? hhead)
    cases e with
    | malformed => exact .malformed
    | scalar e => exact .scalar (.listed hmem)
  · refine takes_pure ?_
    rintro _ ⟨rfl, hr⟩
    exact ⟨hr, rfl⟩

theorem reads_peek? : Reads tokens depth room depth peek? :=
  takes_peek?.mono (fun _ hr => hr) fun _ _ h => h.1

theorem takes_advance {next : Option Token} {t : Token} (hnext : next = some t) :
    Takes (fun r => r.At tokens depth room ∧ next = r.tokens.head?) (Unread tokens)
      (fun _ => TokenReader.At tokens (t.depthAfter depth) room) advance := by
  refine takes_modify ?_
  rintro r ⟨hr, hhead⟩
  obtain ⟨ts, hts⟩ : ∃ ts, r.tokens = t :: ts :=
    List.head?_eq_some_iff.mp (hhead.symm.trans hnext)
  have hnested := hr.nested
  rw [hts] at hnested
  refine ⟨fun u hu => hr.among u (List.mem_of_mem_tail hu), ?_, hr.room_eq⟩
  simp only [hts, List.tail_cons]
  exact (le_max_right _ _).trans hnested

theorem takes_nextIs (wanted : List Token) :
    Takes (TokenReader.At tokens depth room) (Unread tokens)
      (fun found r => r.At tokens depth room ∧
        (found = true → ∃ t ∈ wanted, r.tokens.head? = some t)) (nextIs wanted) := by
  refine takes_bind takes_peek? fun next => takes_pure ?_
  rintro r ⟨hr, rfl⟩
  refine ⟨hr, fun hfound => ?_⟩
  obtain ⟨t, ht, hsome⟩ := Option.any_eq_true _ _ |>.mp hfound
  exact ⟨t, List.contains_iff_mem.mp hsome, ht⟩

theorem reads_accept {token : Token} {yes no : Reading α}
    (hyes : Reads tokens (token.depthAfter depth) room depth' yes)
    (hno : Reads tokens depth room depth' no) :
    Reads tokens depth room depth' (do if ← accept token then yes else no) := by
  have haccept : Takes (TokenReader.At tokens depth room) (Unread tokens)
      (fun found => TokenReader.At tokens (if found then token.depthAfter depth else depth) room)
      (accept token) := by
    refine takes_bind (takes_nextIs [token]) fun found => ?_
    cases found with
    | false => exact takes_pure fun r hr => hr.1
    | true =>
      have hadvance := @takes_advance _ tokens depth room (some token) token rfl
      refine takes_bind (hadvance.mono ?_ fun _ _ hr => hr) fun _ => takes_pure fun _ hr => hr
      rintro r ⟨hr, hhead⟩
      obtain ⟨t, ht, hhead⟩ := hhead rfl
      rw [List.mem_singleton.mp ht] at hhead
      exact ⟨hr, hhead.symm⟩
  refine takes_bind haccept fun found => ?_
  cases found with
  | false => exact hno
  | true => exact hyes

theorem reads_expect (token : Token) :
    Reads tokens depth room (token.depthAfter depth) (expect token) :=
  reads_accept (takes_pure fun _ hr => hr) reads_fail

/-! ## Nodes and names -/

theorem reads_add (node : Node) : Reads tokens depth room depth (add node) :=
  takes_bind reads_get fun _ => takes_bind (reads_modify (fun _ => rfl) fun _ => rfl) fun _ =>
    takes_pure fun _ hr => hr

theorem reads_addEmpty : Reads tokens depth room depth addEmpty := reads_add _

theorem reads_addNamed (anchor : Option String) (node : Node) :
    Reads tokens depth room depth (addNamed anchor node) := by
  cases anchor with
  | none => exact reads_add node
  | some name =>
    have hnew : Reads tokens depth room depth (do
        let place := (← get).nodes.size
        modify fun r => { r with anchors := (name, place) :: r.anchors }
        add node) :=
      takes_bind reads_get fun _ => takes_bind (reads_modify (fun _ => rfl) fun _ => rfl) fun _ =>
        reads_add node
    refine takes_bind reads_get fun r => ?_
    split
    · exact takes_bind reads_fail fun _ => hnew
    · exact hnew

theorem reads_fill (place : Nat) (content : Content) :
    Reads tokens depth room depth (fill place content) :=
  reads_modify (fun _ => rfl) fun _ => rfl

theorem reads_aliased (name : String) : Reads tokens depth room depth (aliased name) := by
  refine takes_bind reads_get fun r => ?_
  split
  · exact takes_pure fun _ hr => hr
  · exact reads_fail

theorem reads_tagName (handle : Option String) (suffix : String) :
    Reads tokens depth room depth (tagName handle suffix) := by
  cases handle with
  | none => exact takes_pure fun _ hr => hr
  | some h =>
    refine takes_bind reads_get fun r => ?_
    split
    · exact takes_pure fun _ hr => hr
    · exact reads_fail

theorem reads_anchor? : Reads tokens depth room depth anchor? := by
  refine takes_bind takes_peek? fun next => ?_
  split
  · exact takes_bind (takes_advance rfl) fun _ => takes_pure fun _ hr => hr
  · exact takes_pure fun _ hr => hr.1

theorem reads_tag? : Reads tokens depth room depth tag? := by
  refine takes_bind takes_peek? fun next => ?_
  split
  · exact takes_bind (takes_advance rfl) fun _ => takes_pure fun _ hr => hr
  · exact takes_pure fun _ hr => hr.1

theorem reads_mapM {β : Type} {f : α → Reading β} (o : Option α)
    (h : ∀ a, Reads tokens depth room depth (f a)) :
    Reads tokens depth room depth (o.mapM f) := by
  cases o with
  | none => exact takes_pure fun _ hr => hr
  | some a =>
    rw [Option.mapM_some, ← bind_pure_comp]
    exact takes_bind (h a) fun _ => takes_pure fun _ hr => hr

theorem reads_properties : Reads tokens depth room depth properties := by
  refine takes_bind reads_anchor? fun before => takes_bind reads_tag? fun tag => ?_
  have hname (anchor : Option String) {name : Option String × String → Reading String}
      (h : ∀ t, Reads tokens depth room depth (name t)) : Reads tokens depth room depth (do
        return (⟨anchor, ← tag.mapM name⟩ : Properties)) :=
    takes_bind (reads_mapM tag h) fun _ => takes_pure fun _ hr => hr
  split
  · exact takes_bind reads_anchor? fun anchor => hname anchor fun _ => reads_tagName _ _
  · exact hname before fun _ => reads_tagName _ _

theorem reads_addScalar (p : Properties) (text : List Text.Code) (plain : Bool) :
    Reads tokens depth room depth (addScalar p text plain) := reads_addNamed _ _

theorem takes_setRoom (less : Nat) :
    Takes (TokenReader.At tokens depth room) (Unread tokens)
      (fun _ => TokenReader.At tokens depth less)
      (modify fun r => { r with room := less } : Reading PUnit) :=
  takes_modify fun _ hr => ⟨hr.among, hr.nested, rfl⟩

/-- What is inside is read with less room. If there is none, so many collections are open that the
reach is less than twice their number. -/
theorem reads_inside {parts : Reading α} (hreach : Reach.nodes < room + 2 * depth)
    (hparts : ∀ less, room = less + 1 → Reads tokens depth less depth' parts) :
    Reads tokens depth room depth' (inside parts) := by
  refine takes_bind takes_get fun r => ?_
  split
  · rename_i hzero
    rintro _ ⟨rfl, hr⟩
    have hdepth := hr.depth_le
    have hroom := hr.room_eq
    exact .scalar (.nested (by omega))
  · rename_i less hless
    rintro _ ⟨rfl, hr⟩
    obtain rfl : room = less + 1 := hr.room_eq.symm.trans hless
    have hback (found : α) : Takes (TokenReader.At tokens depth' less) (Unread tokens)
        (fun _ => TokenReader.At tokens depth' (less + 1)) (do
          modify fun r => { r with room := less + 1 }
          return found : Reading α) :=
      takes_bind (takes_setRoom (less + 1)) fun _ => takes_pure fun _ hr => hr
    exact takes_bind (takes_setRoom less) (fun _ => takes_bind (hparts less rfl) hback) r hr

theorem reads_addSequence (p : Properties) {items : Reading (List Nat)}
    (hreach : Reach.nodes < room + 2 * depth)
    (hitems : ∀ less, room = less + 1 → Reads tokens depth less depth' items) :
    Reads tokens depth room depth' (addSequence p items) := by
  refine takes_bind (reads_addNamed _ _) fun place => ?_
  refine takes_bind (reads_inside hreach hitems) fun found => ?_
  exact takes_bind (reads_fill _ _) fun _ => takes_pure fun _ hr => hr

theorem reads_addMapping (p : Properties) {entries : Reading (List (Nat × Nat))}
    (hreach : Reach.nodes < room + 2 * depth)
    (hentries : ∀ less, room = less + 1 → Reads tokens depth less depth' entries) :
    Reads tokens depth room depth' (addMapping p entries) := by
  refine takes_bind (reads_addNamed _ _) fun place => ?_
  refine takes_bind (reads_inside hreach hentries) fun found => ?_
  exact takes_bind (reads_fill _ _) fun _ => takes_pure fun _ hr => hr

/-! ## Collections -/

/-- Reading nodes in so many steps. The seven functions call each other with one step less. The
reach is at most the room that is left and twice the number of collections that tokens have opened.
It is less where a collection may follow that no token opens. -/
structure ReadsNodes (tokens : List Token) (n : Nat) : Prop where
  node {depth room : Nat} (block indentless : Bool)
    (h : Reach.nodes + indentless.toNat ≤ room + 2 * depth) :
    Reads tokens depth room depth (node n block indentless)
  nodeUnless {depth room : Nat} (stops : List Token) (block indentless : Bool)
    (h : Reach.nodes + indentless.toNat ≤ room + 2 * depth) :
    Reads tokens depth room depth (nodeUnless n stops block indentless)
  indentlessItems {depth room : Nat} (h : Reach.nodes ≤ room + 2 * depth) :
    Reads tokens depth room depth (indentlessItems n)
  blockItems {depth room : Nat} (h : Reach.nodes < room + 2 * (depth + 1)) :
    Reads tokens (depth + 1) room depth (blockItems n)
  blockEntries {depth room : Nat} (h : Reach.nodes < room + 2 * (depth + 1)) :
    Reads tokens (depth + 1) room depth (blockEntries n)
  flowItems {depth room : Nat} (first : Bool) (h : Reach.nodes < room + 2 * (depth + 1)) :
    Reads tokens (depth + 1) room depth (flowItems n first)
  flowEntries {depth room : Nat} (first : Bool) (h : Reach.nodes < room + 2 * (depth + 1)) :
    Reads tokens (depth + 1) room depth (flowEntries n first)

variable {n : Nat}

theorem ReadsNodes.zero : ReadsNodes tokens 0 where
  node _ _ _ := reads_fail
  nodeUnless _ _ _ _ := reads_fail
  indentlessItems _ := reads_fail
  blockItems _ := reads_fail
  blockEntries _ := reads_fail
  flowItems _ _ := reads_fail
  flowEntries _ _ := reads_fail

theorem ReadsNodes.node_succ (h : ReadsNodes tokens n) (block indentless : Bool)
    (hreach : Reach.nodes + indentless.toNat ≤ room + 2 * depth) :
    Reads tokens depth room depth (Reading.node (n + 1) block indentless) := by
  have hopened : Reach.nodes < room + 2 * (depth + 1) := by omega
  unfold Reading.node
  refine takes_bind takes_peek? fun first => ?_
  split
  · exact takes_bind (takes_advance rfl) fun _ => reads_aliased _
  · refine takes_bind (reads_properties.mono (fun _ hr => hr.1) fun _ _ hr => hr) fun p => ?_
    refine takes_bind takes_peek? fun next => ?_
    split
    · refine Takes.mono ?_ (fun _ hr => hr.1) fun _ _ hr => hr
      have hinside : Reach.nodes < room + 2 * depth := hreach
      exact reads_addSequence p hinside fun less hroom => h.indentlessItems (by omega)
    · exact takes_bind (takes_advance rfl) fun _ => reads_addScalar p _ _
    · refine takes_bind (takes_advance rfl) fun _ => ?_
      exact reads_addSequence p hopened fun less hroom => h.flowItems true (by omega)
    · refine takes_bind (takes_advance rfl) fun _ => ?_
      exact reads_addMapping p hopened fun less hroom => h.flowEntries true (by omega)
    · refine takes_bind (takes_advance rfl) fun _ => ?_
      exact reads_addSequence p hopened fun less hroom => h.blockItems (by omega)
    · refine takes_bind (takes_advance rfl) fun _ => ?_
      exact reads_addMapping p hopened fun less hroom => h.blockEntries (by omega)
    · refine Takes.mono ?_ (fun _ hr => hr.1) fun _ _ hr => hr
      split
      · exact reads_addScalar p _ _
      · exact reads_fail

theorem ReadsNodes.nodeUnless_succ (h : ReadsNodes tokens n) (stops : List Token)
    (block indentless : Bool) (hreach : Reach.nodes + indentless.toNat ≤ room + 2 * depth) :
    Reads tokens depth room depth (Reading.nodeUnless (n + 1) stops block indentless) := by
  unfold Reading.nodeUnless
  refine takes_bind ((takes_nextIs stops).mono (fun _ hr => hr) fun _ _ hr => hr.1) fun stop => ?_
  split
  · exact reads_addEmpty
  · exact h.node block indentless hreach

theorem ReadsNodes.indentlessItems_succ (h : ReadsNodes tokens n)
    (hreach : Reach.nodes ≤ room + 2 * depth) :
    Reads tokens depth room depth (Reading.indentlessItems (n + 1)) := by
  unfold Reading.indentlessItems
  refine reads_accept ?_ (takes_pure fun _ hr => hr)
  refine takes_bind (h.nodeUnless _ true false hreach) fun item => ?_
  exact takes_bind (h.indentlessItems hreach) fun _ => takes_pure fun _ hr => hr

theorem ReadsNodes.blockItems_succ (h : ReadsNodes tokens n)
    (hreach : Reach.nodes < room + 2 * (depth + 1)) :
    Reads tokens (depth + 1) room depth (Reading.blockItems (n + 1)) := by
  unfold Reading.blockItems
  refine reads_accept ?_ ?_
  · refine takes_bind (h.nodeUnless _ true false hreach.le) fun item => ?_
    exact takes_bind (h.blockItems hreach) fun _ => takes_pure fun _ hr => hr
  · exact takes_bind (reads_expect _) fun _ => takes_pure fun _ hr => hr

theorem ReadsNodes.blockEntries_succ (h : ReadsNodes tokens n)
    (hreach : Reach.nodes < room + 2 * (depth + 1)) :
    Reads tokens (depth + 1) room depth (Reading.blockEntries (n + 1)) := by
  have hrest (k v : Nat) : Reads tokens (depth + 1) room depth
      (do return (k, v) :: (← Reading.blockEntries n)) :=
    takes_bind (h.blockEntries hreach) fun _ => takes_pure fun _ hr => hr
  unfold Reading.blockEntries
  refine reads_accept ?_ ?_
  · refine takes_bind (h.nodeUnless _ true true hreach) fun k => reads_accept ?_ ?_
    · exact takes_bind (h.nodeUnless _ true true hreach) (hrest k)
    · exact takes_bind reads_addEmpty (hrest k)
  · exact takes_bind (reads_expect _) fun _ => takes_pure fun _ hr => hr

theorem ReadsNodes.flowItems_succ (h : ReadsNodes tokens n) (first : Bool)
    (hreach : Reach.nodes < room + 2 * (depth + 1)) :
    Reads tokens (depth + 1) room depth (Reading.flowItems (n + 1) first) := by
  have hmore (item : Nat) : Reads tokens (depth + 1) room depth
      (do return item :: (← Reading.flowItems n false)) :=
    takes_bind (h.flowItems false hreach) fun _ => takes_pure fun _ hr => hr
  -- the mapping of one key is inside the sequence
  have hentry : Reads tokens (depth + 1) room (depth + 1) (inside do
      let k ← Reading.nodeUnless n [.value, .flowEntry, .flowSequenceEnd] false false
      let v ←
        if ← accept .value then Reading.nodeUnless n [.flowEntry, .flowSequenceEnd] false false
        else addEmpty
      return (k, v)) := by
    refine reads_inside hreach fun less hroom => ?_
    have hless : Reach.nodes ≤ less + 2 * (depth + 1) := by omega
    refine takes_bind (h.nodeUnless _ false false hless) fun k => reads_accept ?_ ?_
    · exact takes_bind (h.nodeUnless _ false false hless) fun v => takes_pure fun _ hr => hr
    · exact takes_bind reads_addEmpty fun v => takes_pure fun _ hr => hr
  unfold Reading.flowItems
  refine reads_accept (takes_pure fun _ hr => hr) ?_
  extract_lets rest
  have hrest (u : Unit) : Reads tokens (depth + 1) room depth (rest u) := by
    refine reads_accept ?_ (reads_accept (takes_pure fun _ hr => hr) ?_)
    · exact takes_bind hentry fun entry => takes_bind (reads_add _) hmore
    · exact takes_bind (h.node false false hreach.le) hmore
  split
  · exact hrest ()
  · exact takes_bind (reads_expect _) hrest

theorem ReadsNodes.flowEntries_succ (h : ReadsNodes tokens n) (first : Bool)
    (hreach : Reach.nodes < room + 2 * (depth + 1)) :
    Reads tokens (depth + 1) room depth (Reading.flowEntries (n + 1) first) := by
  have hmore (k v : Nat) : Reads tokens (depth + 1) room depth
      (do return (k, v) :: (← Reading.flowEntries n false)) :=
    takes_bind (h.flowEntries false hreach) fun _ => takes_pure fun _ hr => hr
  unfold Reading.flowEntries
  refine reads_accept (takes_pure fun _ hr => hr) ?_
  extract_lets rest
  have hrest (u : Unit) : Reads tokens (depth + 1) room depth (rest u) := by
    refine reads_accept ?_ (reads_accept (takes_pure fun _ hr => hr) ?_)
    · refine takes_bind (h.nodeUnless _ false false hreach.le) fun k => reads_accept ?_ ?_
      · exact takes_bind (h.nodeUnless _ false false hreach.le) (hmore k)
      · exact takes_bind reads_addEmpty (hmore k)
    · exact takes_bind (h.node false false hreach.le) fun k => takes_bind reads_addEmpty (hmore k)
  split
  · exact hrest ()
  · exact takes_bind (reads_expect _) hrest

theorem readsNodes (n : Nat) : ReadsNodes tokens n := by
  induction n with
  | zero => exact .zero
  | succ n ih =>
    exact ⟨ih.node_succ, ih.nodeUnless_succ, ih.indentlessItems_succ, ih.blockItems_succ,
      ih.blockEntries_succ, ih.flowItems_succ, ih.flowEntries_succ⟩

/-! ## Documents -/

theorem reads_directives (n : Nat) (versioned : Bool) (handles : List (String × String)) :
    Reads tokens depth room depth (directives n versioned handles) := by
  induction n generalizing versioned handles with
  | zero => exact takes_pure fun _ hr => hr
  | succ n ih =>
    unfold directives
    refine takes_bind takes_peek? fun next => ?_
    split
    · refine takes_bind (takes_advance rfl) fun _ => ?_
      split
      · split
        · exact takes_bind reads_fail fun _ => ih _ _
        · exact ih _ _
      · split
        · exact takes_bind reads_fail fun _ => ih _ _
        · exact ih _ _
      · exact ih _ _
    · exact takes_pure fun _ hr => hr.1

theorem reads_documentStart : Reads tokens depth room depth documentStart := by
  refine takes_bind reads_get fun r => takes_bind (reads_directives _ _ _) fun handles => ?_
  exact takes_bind (reads_expect _) fun _ => reads_modify (fun _ => rfl) fun _ => rfl

theorem reads_atDocumentEdge : Reads tokens depth room depth atDocumentEdge := by
  refine takes_bind reads_peek? fun next => ?_
  split
  all_goals exact takes_pure fun _ hr => hr

theorem reads_documentEnd : Reads tokens depth room depth documentEnd := by
  have hmarks (r : TokenReader) (hr : r.At tokens depth room) :
      TokenReader.At tokens depth room { r with
        tokens := r.tokens.dropWhile (· == .documentEnd) } :=
    ⟨fun t ht => hr.among t (List.dropWhile_subset _ ht),
      (nestingFrom_dropWhile_le _ _).trans hr.nested, hr.room_eq⟩
  refine takes_bind (takes_modify hmarks) fun _ => takes_bind reads_peek? fun next => ?_
  split
  · exact takes_pure fun _ hr => hr
  · exact takes_bind reads_documentStart fun _ => reads_fail

theorem reads_document (hreach : Reach.nodes ≤ room) : Reads tokens 0 room 0 document := by
  have hnode (n : Nat) : Reads tokens 0 room 0 (node n true false) :=
    (readsNodes n).node true false hreach
  unfold document
  refine takes_bind reads_get fun r => takes_bind reads_peek? fun next => ?_
  split
  · exact takes_pure fun _ hr => hr
  · extract_lets explicit rest
    have hrest (root : Nat) : Reads tokens 0 room 0 (rest root) :=
      takes_bind reads_documentEnd fun _ => takes_pure fun _ hr => hr
    split
    · refine takes_bind reads_documentStart fun _ => takes_bind reads_atDocumentEdge fun edge => ?_
      split
      · exact takes_bind reads_addEmpty hrest
      · exact takes_bind (hnode _) hrest
    · refine takes_bind (reads_modify (fun _ => rfl) fun _ => rfl) fun _ => ?_
      exact takes_bind (hnode _) hrest

end Reading

theorem blame_of_ofText? [Reach] {text : String} {e : ScalarError}
    (h : Document.ofText? text = .error (.scalar e)) :
    ScanFault text.toList e ∨ e = .endless ∧ Reach.nodes < 2 * nesting (tokens text) := by
  have hread : Guarded (Unread (tokens text)) (fun _ => True) (Document.ofText? text) :=
    (Reading.reads_document le_rfl ⟨tokens text, #[], [], [], Reach.nodes⟩
      ⟨fun _ ht => ht, le_rfl, rfl⟩).bind fun _ _ => .ok trivial
  rw [h] at hread
  cases hread with
  | scalar hunread =>
    cases hunread with
    | listed hmem => exact .inl (scanFault_of_unreadable_mem hmem)
    | nested hreach => exact .inr ⟨rfl, hreach⟩

end Mailroom.Yaml
