import Mailroom.Proofs.Yaml.Blame
import Mailroom.Yaml.Merge
import Mathlib.Algebra.Order.BigOperators.Group.Finset

/-!
# What merging leaves as it was

Merging rearranges the entries of mappings, and makes a text of the key `=`. No other tag changes,
and neither does any scalar (`Merged`).

Merging also takes merge keys out, and never puts one in: the entries that are brought into a
mapping come from mappings that have been merged before. So the number of merge keys goes down with
every step inwards, and a document with no more merge keys than there is room for steps is always
merged (`merges_merge`).
-/

set_option autoImplicit false

namespace Mailroom.Yaml

structure Node.Merged (before after : Node) : Prop where
  tag : after.tag = before.tag ∨ (before.tag = .value ∧ after.tag = .str)
  content : after.content = before.content ∨
    ∃ entries entries', before.content = .mapping entries ∧ after.content = .mapping entries'

theorem Node.Merged.refl (a : Node) : a.Merged a := ⟨.inl rfl, .inl rfl⟩

theorem Node.Merged.trans {a b c : Node} (hab : a.Merged b) (hbc : b.Merged c) : a.Merged c := by
  constructor
  · rcases hbc.tag with hbc | ⟨hb, hc⟩
    · rw [hbc]
      exact hab.tag
    · rcases hab.tag with hab | ⟨-, hb'⟩
      · exact .inr ⟨hab ▸ hb, hc⟩
      · rw [hb] at hb'
        cases hb'
  · rcases hbc.content with hbc | ⟨entries, entries', hb, hc⟩
    · rw [hbc]
      exact hab.content
    · rcases hab.content with hab | ⟨first, _, ha, -⟩
      · exact .inr ⟨entries, entries', hab ▸ hb, hc⟩
      · exact .inr ⟨first, entries', ha, hc⟩

namespace Nodes

/-! ## Merge keys -/

def mergeKeysIn (nodes : Nodes) (entries : List (Nat × Nat)) : Nat :=
  entries.countP fun entry => nodes.tag entry.1 == .merge

def mergeKeys (nodes : Nodes) : Nat :=
  ∑ i ∈ Finset.range nodes.size, nodes.mergeKeysIn (nodes.entries i)

variable {nodes nodes' nodes'' : Nodes} {i k : Nat} {entries entries' : List (Nat × Nat)}

theorem mergeKeysIn_append (nodes : Nodes) (entries entries' : List (Nat × Nat)) :
    nodes.mergeKeysIn (entries ++ entries') =
      nodes.mergeKeysIn entries + nodes.mergeKeysIn entries' :=
  List.countP_append

theorem mergeKeysIn_cons (nodes : Nodes) (entry : Nat × Nat) (rest : List (Nat × Nat)) :
    nodes.mergeKeysIn (entry :: rest) =
      nodes.mergeKeysIn rest + if nodes.tag entry.1 == .merge then 1 else 0 :=
  List.countP_cons

theorem splitMerge?_eq_none (h : nodes.splitMerge? entries = none) :
    nodes.mergeKeysIn entries = 0 := by
  induction entries with
  | nil => rfl
  | cons entry rest ih =>
    rw [splitMerge?] at h
    split at h
    · cases h
    · rename_i htag
      rw [mergeKeysIn_cons, if_neg htag]
      exact ih (Option.map_eq_none_iff.mp h)

theorem splitMerge?_eq_some {value : Nat} {left : List (Nat × Nat)}
    (h : nodes.splitMerge? entries = some (value, left)) :
    nodes.mergeKeysIn left + 1 = nodes.mergeKeysIn entries := by
  induction entries generalizing left with
  | nil => cases h
  | cons entry rest ih =>
    rw [splitMerge?] at h
    split at h
    · rename_i htag
      cases h
      rw [mergeKeysIn_cons, if_pos htag]
    · rename_i htag
      obtain ⟨⟨value', left'⟩, hrest, hleft⟩ := Option.map_eq_some_iff.mp h
      cases hleft
      rw [mergeKeysIn_cons, mergeKeysIn_cons, if_neg htag]
      exact ih hrest

/-! ## Merged nodes -/

theorem mergeKeysIn_eq_of_merged (h : ∀ i, (nodes.node i).Merged (nodes'.node i))
    (entries : List (Nat × Nat)) : nodes'.mergeKeysIn entries = nodes.mergeKeysIn entries := by
  refine List.countP_congr fun entry _ => ?_
  rw [beq_iff_eq, beq_iff_eq]
  rcases (h entry.1).tag with heq | ⟨hvalue, hstr⟩
  · rw [Nodes.tag, heq, Nodes.tag]
  · rw [Nodes.tag, hstr, Nodes.tag, hvalue]
    simp

def IsMapping (nodes : Nodes) (i : Nat) : Prop :=
  ∃ entries, (nodes.node i).content = .mapping entries

/-- Nodes, and what merging may have made of them. -/
structure Merged (before after : Nodes) : Prop where
  node : ∀ i, (before.node i).Merged (after.node i)
  size : after.size = before.size
  keys : ∀ i, after.mergeKeysIn (after.entries i) ≤ before.mergeKeysIn (before.entries i)

theorem Merged.refl (nodes : Nodes) : Merged nodes nodes :=
  ⟨fun _ => .refl _, rfl, fun _ => le_rfl⟩

theorem Merged.trans (h : Merged nodes nodes') (h' : Merged nodes' nodes'') :
    Merged nodes nodes'' :=
  ⟨fun i => (h.node i).trans (h'.node i), h'.size.trans h.size,
    fun i => (h'.keys i).trans (h.keys i)⟩

theorem Merged.isMapping_iff (h : Merged nodes nodes') :
    nodes'.IsMapping i ↔ nodes.IsMapping i := by
  rcases (h.node i).content with heq | ⟨entries, entries', ha, hb⟩
  · rw [IsMapping, heq, IsMapping]
  · exact ⟨fun _ => ⟨entries, ha⟩, fun _ => ⟨entries', hb⟩⟩

theorem Merged.content_eq_scalar (h : Merged nodes nodes') {text : List Text.Code}
    (htext : (nodes'.node i).content = .scalar text) : (nodes.node i).content = .scalar text := by
  rcases (h.node i).content with heq | ⟨_, _, -, hb⟩
  · exact heq ▸ htext
  · rw [hb] at htext
    cases htext

theorem Merged.tag_eq (h : Merged nodes nodes') (hi : nodes'.tag i ≠ .str) :
    nodes.tag i = nodes'.tag i := by
  rcases (h.node i).tag with heq | ⟨-, hstr⟩
  · exact heq.symm
  · exact absurd hstr hi

theorem Merged.tag_eq_value (h : Merged nodes nodes') (hk : nodes'.tag k = .value) :
    nodes.tag k = .value := by
  rw [h.tag_eq (by simp [hk]), hk]

theorem Merged.mergeKeysIn_eq (h : Merged nodes nodes') (entries : List (Nat × Nat)) :
    nodes'.mergeKeysIn entries = nodes.mergeKeysIn entries :=
  mergeKeysIn_eq_of_merged h.node entries

theorem Merged.mergeKeys_le (h : Merged nodes nodes') : nodes'.mergeKeys ≤ nodes.mergeKeys := by
  rw [mergeKeys, mergeKeys, h.size]
  exact Finset.sum_le_sum fun i _ => h.keys i

theorem Merged.mergeKeys_lt (h : Merged nodes nodes') (hi : i < nodes.size)
    (hkeys : nodes'.mergeKeysIn (nodes'.entries i) < nodes.mergeKeysIn (nodes.entries i)) :
    nodes'.mergeKeys < nodes.mergeKeys := by
  rw [mergeKeys, mergeKeys, h.size]
  exact Finset.sum_lt_sum (fun j _ => h.keys j) ⟨i, Finset.mem_range.mpr hi, hkeys⟩

/-! ## One change -/

theorem node_setIfInBounds (nodes : Nodes) (i j : Nat) (node : Node) :
    Nodes.node (nodes.setIfInBounds i node) j =
      if i = j ∧ i < nodes.size then node else nodes.node j := by
  unfold Nodes.node
  rw [Array.getD_eq_getD_getElem?, Array.getD_eq_getD_getElem?, Array.getElem?_setIfInBounds]
  split
  · rename_i heq
    subst heq
    by_cases hi : i < nodes.size
    · simp [hi]
    · simp [hi]
  · rename_i hne
    simp [hne]

theorem IsMapping.lt_size (h : nodes.IsMapping i) : i < nodes.size := by
  obtain ⟨entries, hentries⟩ := h
  by_contra hi
  have hnode : nodes.node i = .empty := by simp [Nodes.node, hi]
  rw [hnode] at hentries
  cases hentries

theorem entries_setContent (hi : nodes.IsMapping i) (entries : List (Nat × Nat)) (j : Nat) :
    (nodes.setContent i (.mapping entries)).entries j =
      if i = j then entries else nodes.entries j := by
  rw [Nodes.entries, setContent, node_setIfInBounds]
  by_cases hj : i = j
  · simp [hj, hj ▸ hi.lt_size]
  · simp [hj, Nodes.entries]

theorem tag_setContent (nodes : Nodes) (i k : Nat) (content : Content) :
    (nodes.setContent i content).tag k = nodes.tag k := by
  rw [Nodes.tag, setContent, node_setIfInBounds]
  split
  · rename_i h
    rw [← h.1]
    rfl
  · rfl

theorem mergeKeysIn_setContent (nodes : Nodes) (i : Nat) (content : Content)
    (entries : List (Nat × Nat)) :
    (nodes.setContent i content).mergeKeysIn entries = nodes.mergeKeysIn entries := by
  simp only [mergeKeysIn, tag_setContent]

theorem merged_setContent (hi : nodes.IsMapping i)
    (hkeys : nodes.mergeKeysIn entries ≤ nodes.mergeKeysIn (nodes.entries i)) :
    Merged nodes (nodes.setContent i (.mapping entries)) where
  node j := by
    rw [setContent, node_setIfInBounds]
    split
    · rename_i h
      obtain ⟨rfl, -⟩ := h
      obtain ⟨old, hold⟩ := hi
      exact ⟨.inl rfl, .inr ⟨old, entries, hold, rfl⟩⟩
    · exact .refl _
  size := Array.size_setIfInBounds
  keys j := by
    rw [mergeKeysIn_setContent, entries_setContent hi]
    split
    · rename_i h
      exact h ▸ hkeys
    · exact le_rfl

theorem merged_setTag (hk : nodes.tag k = .value) : Merged nodes (nodes.setTag k .str) := by
  have hnode (j : Nat) : (nodes.node j).Merged ((nodes.setTag k .str).node j) := by
    rw [setTag, node_setIfInBounds]
    split
    · rename_i h
      obtain ⟨rfl, -⟩ := h
      exact ⟨.inr ⟨hk, rfl⟩, .inl rfl⟩
    · exact .refl _
  have hcontent (j : Nat) : ((nodes.setTag k .str).node j).content = (nodes.node j).content := by
    rw [setTag, node_setIfInBounds]
    split
    · rename_i h
      rw [← h.1]
    · rfl
  refine ⟨hnode, Array.size_setIfInBounds, fun j => ?_⟩
  rw [mergeKeysIn_eq_of_merged hnode, Nodes.entries, hcontent, Nodes.entries]

theorem merged_plainKeys (nodes : Nodes) (entries : List (Nat × Nat)) :
    Merged nodes (nodes.plainKeys entries) := by
  unfold plainKeys
  induction entries generalizing nodes with
  | nil => exact .refl nodes
  | cons entry rest ih =>
    rw [List.foldl_cons]
    refine Merged.trans ?_ (ih _)
    by_cases hvalue : nodes.tag entry.1 = .value
    · simpa [hvalue] using merged_setTag hvalue
    · simpa [hvalue] using Merged.refl nodes

/-! ## Merging -/

/-- Merging with room for so many steps inwards changes the nodes as said, and leaves no merge key
in the mapping of the number. It fails for its depth only if there are more merge keys than there is
room for steps. -/
abbrev Merges (room : Nat) (nodes : Nodes) (i : Nat) (x : Except Error Nodes) : Prop :=
  Guarded (fun e => e = .endless ∧ room < nodes.mergeKeys)
    (fun nodes' => Merged nodes nodes' ∧ nodes'.mergeKeysIn (nodes'.entries i) = 0) x

theorem guarded_mergeSources (nodes : Nodes) (value : Nat) :
    Guarded (fun _ => False) (fun _ => True) (nodes.mergeSources value) := by
  unfold mergeSources
  split
  · exact .ok trivial
  · exact .ok trivial
  · exact .malformed

theorem guarded_collect {room : Nat} {merge : Nodes → Nat → Except Error Nodes}
    (hmerge : ∀ nodes i, nodes.IsMapping i →
      Guarded (fun e => e = .endless ∧ room ≤ nodes.mergeKeys)
        (fun nodes' => Merged nodes nodes' ∧ nodes'.mergeKeysIn (nodes'.entries i) = 0)
        (merge nodes i))
    (nodes : Nodes) (sources : List Nat) :
    Guarded (fun e => e = .endless ∧ room ≤ nodes.mergeKeys)
      (fun x => Merged nodes x.1 ∧ x.1.mergeKeysIn x.2 = 0) (nodes.collect merge sources) := by
  induction sources generalizing nodes with
  | nil => exact .ok ⟨.refl nodes, rfl⟩
  | cons i rest ih =>
    unfold collect
    split
    · rename_i entries hentries
      refine (hmerge nodes i ⟨entries, hentries⟩).bind fun nodes' ⟨hnodes', hkeys⟩ => ?_
      have hle := hnodes'.mergeKeys_le
      refine ((ih nodes').mono (fun e ⟨he, hroom⟩ => ⟨he, hroom.trans hle⟩) fun _ hx => hx).bind ?_
      rintro ⟨after, more⟩ ⟨hafter, hmore⟩
      refine .ok ⟨hnodes'.trans hafter, ?_⟩
      rw [mergeKeysIn_append, hmore, hafter.mergeKeysIn_eq, hkeys]
    · exact .malformed

theorem merges_mergeWith (steps room : Nat) (merged : List (Nat × Nat)) (nodes : Nodes) (i : Nat)
    (hi : nodes.IsMapping i) (hmerged : nodes.mergeKeysIn merged = 0) :
    Merges room nodes i (mergeWith steps room merged nodes i) := by
  induction steps generalizing room merged nodes i with
  | zero => exact .malformed
  | succ steps ih =>
    unfold mergeWith
    split
    · rename_i hnone
      extract_lets entries
      have hkeys := merged_plainKeys nodes entries
      have hentries : nodes.mergeKeysIn entries = 0 := by
        rw [mergeKeysIn_append, hmerged, splitMerge?_eq_none hnone]
      have hi' := hkeys.isMapping_iff.mpr hi
      rw [← hkeys.mergeKeysIn_eq] at hentries
      refine .ok ⟨hkeys.trans (merged_setContent hi' (by simp [hentries])), ?_⟩
      rw [mergeKeysIn_setContent, entries_setContent hi', if_pos rfl, hentries]
    · rename_i value left hsome
      extract_lets taken mergeSource
      have hleft := splitMerge?_eq_some hsome
      have htaken : Merged nodes taken := merged_setContent hi (by omega)
      -- a merge key is gone, so there is one step less to go inwards
      have hless : taken.mergeKeys < nodes.mergeKeys := by
        refine htaken.mergeKeys_lt hi.lt_size ?_
        rw [htaken.mergeKeysIn_eq, entries_setContent hi, if_pos rfl]
        omega
      have hsource (nodes : Nodes) (j : Nat) (hj : nodes.IsMapping j) :
          Guarded (fun e => e = .endless ∧ room ≤ nodes.mergeKeys)
            (fun nodes' => Merged nodes nodes' ∧ nodes'.mergeKeysIn (nodes'.entries j) = 0)
            (mergeSource nodes j) := by
        unfold mergeSource
        cases room with
        | zero => exact .scalar ⟨rfl, Nat.zero_le _⟩
        | succ room => exact ih room [] nodes j hj rfl
      refine ((guarded_mergeSources taken value).mono (fun _ h => h.elim) fun _ h => h).bind
        fun sources _ => ?_
      refine ((guarded_collect hsource taken sources).mono
        (fun e ⟨he, hroom⟩ => ⟨he, hroom.trans_lt hless⟩) fun _ hx => hx).bind ?_
      rintro ⟨nodes', more⟩ ⟨hnodes', hmore⟩
      have hall := htaken.trans hnodes'
      have hbrought : nodes'.mergeKeysIn (merged ++ more) = 0 := by
        rw [mergeKeysIn_append, hall.mergeKeysIn_eq, hmerged, hmore]
      refine (ih room _ nodes' i (hall.isMapping_iff.mpr hi) hbrought).mono
        (fun e ⟨he, hroom⟩ => ⟨he, hroom.trans_le hall.mergeKeys_le⟩) ?_
      exact fun _ ⟨hlast, hkeys⟩ => ⟨hall.trans hlast, hkeys⟩

theorem merges_merge [Reach] (hi : nodes.IsMapping i) :
    Merges Reach.merges nodes i (nodes.merge i) :=
  merges_mergeWith _ _ _ _ _ hi rfl

end Nodes

end Mailroom.Yaml
