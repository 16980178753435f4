import Mailroom.Proofs.Data.Failing
import Mailroom.Proofs.Yaml.Document
import Mailroom.Proofs.Yaml.Merge
import Mailroom.Yaml.Load

/-!
# Which scalar is to blame

A text that YAML allows is not always one that has a value. Here is what can be wrong with it then,
other than its form (`blame_of_load`). There are three answers, one for each stage of reading.

Something was met while the tokens of the text were read. Or its collections are nested deeper than
the reach, and then its tokens say so. Or the document was read, and one of its nodes is to blame
(`Culprit`): it stands for a scalar and is none, or it is one of more merge keys than can be merged
in turn.

The values are made from nodes that merging changes on the way. What is said here is about the nodes
as they were read, which is what `Nodes.Merged` is for.
-/

set_option autoImplicit false

namespace Mailroom.Yaml

/-- A node that stands for a scalar and has no value. It may be a mapping, which stands for its
entry with the key `=`. All merge keys together are to blame where there are too many of them. -/
inductive Culprit [Reach] (nodes : Nodes) : ScalarError → Prop where
  | scalar {i : Nat} {text : List Text.Code} {e : ScalarError}
      (hi : (nodes.node i).content = .scalar text)
      (he : scalarValue (nodes.tag i) text = .error (.scalar e)) : Culprit nodes e
  | deputy {i j k : Nat} {text : List Text.Code} {e : ScalarError} (hi : nodes.IsMapping i)
      (hk : nodes.tag k = .value) (hj : (nodes.node j).content = .scalar text)
      (he : scalarValue (nodes.tag i) text = .error (.scalar e)) : Culprit nodes e
  | date {i k : Nat} (hi : nodes.IsMapping i) (hk : nodes.tag k = .value)
      (htag : nodes.tag i = .timestamp) : Culprit nodes .mappingAsTimestamp
  | endless {i k : Nat} (hi : nodes.IsMapping i) (hk : nodes.tag k = .value) :
      Culprit nodes .endless
  | merges (h : Reach.merges < nodes.mergeKeys) : Culprit nodes .endless

variable {nodes : Nodes}

/-! ## Scalars -/

theorem guarded_text (nodes : Nodes) (steps i : Nat) :
    Guarded (fun e => e = .endless) (fun text => ∃ j, (nodes.node j).content = .scalar text)
      (nodes.text steps i) := by
  induction steps generalizing i with
  | zero => exact .scalar rfl
  | succ steps ih =>
    unfold Nodes.text
    split
    · rename_i text htext
      exact .ok ⟨i, htext⟩
    · exact .malformed
    · split
      · exact ih _
      · exact .malformed

theorem tag_eq_of_scalarValue {nodes' : Nodes} (hmerged : Nodes.Merged nodes nodes') {i : Nat}
    {text : List Text.Code} {e : ScalarError}
    (he : scalarValue (nodes'.tag i) text = .error (.scalar e)) : nodes.tag i = nodes'.tag i := by
  refine hmerged.tag_eq fun hstr => ?_
  rw [hstr] at he
  cases he

variable [Reach]

theorem guarded_textOf (nodes : Nodes) (i : Nat) :
    Guarded (fun e => e = .endless ∧ nodes.IsMapping i ∧ ∃ k, nodes.tag k = .value)
      (fun text => (nodes.node i).content = .scalar text ∨ nodes.IsMapping i ∧
        ∃ j k, nodes.tag k = .value ∧ (nodes.node j).content = .scalar text)
      (Building.textOf nodes i) := by
  unfold Building.textOf Nodes.text
  split
  · rename_i text htext
    exact .ok (.inl htext)
  · exact .malformed
  · rename_i entries hentries
    split
    · rename_i k v hfind
      have hk : nodes.tag k = .value := by simpa using List.find?_some hfind
      exact (guarded_text nodes _ v).mono (fun _ he => ⟨he, ⟨entries, hentries⟩, k, hk⟩)
        fun _ ⟨j, hj⟩ => .inr ⟨⟨entries, hentries⟩, j, k, hk, hj⟩
    · exact .malformed

theorem guarded_scalarOf {nodes' : Nodes} (hmerged : Nodes.Merged nodes nodes') (i : Nat) :
    Guarded (Culprit nodes) (fun _ => True) (Building.scalarOf nodes' i) := by
  unfold Building.scalarOf
  extract_lets node rest
  have hrest (u : Unit) : Guarded (Culprit nodes) (fun _ => True) (rest u) := by
    refine ((guarded_textOf nodes' i).mono ?_ fun _ h => h).bind fun text htext => ?_
    · rintro e ⟨rfl, hi, k, hk⟩
      exact .endless (hmerged.isMapping_iff.mp hi) (hmerged.tag_eq_value hk)
    · split
      · rename_i entries htag hcontent
        have htag' : nodes.tag i = .timestamp :=
          (hmerged.tag_eq (by simp [Nodes.tag, node, htag])).trans htag
        rcases htext with htext | ⟨hi, j, k, hk, -⟩
        · cases htext.symm.trans hcontent
        · exact .scalar (.date (hmerged.isMapping_iff.mp hi) (hmerged.tag_eq_value hk) htag')
      · refine (Guarded.self _).mono (fun e he => ?_) fun _ _ => trivial
        have htag : nodes.tag i = node.tag := tag_eq_of_scalarValue hmerged he
        rcases htext with htext | ⟨hi, j, k, hk, hj⟩
        · exact .scalar (hmerged.content_eq_scalar htext) (by rw [htag]; exact he)
        · exact .deputy (hmerged.isMapping_iff.mp hi) (hmerged.tag_eq_value hk)
            (hmerged.content_eq_scalar hj) (by rw [htag]; exact he)
  split
  · exact hrest ()
  · exact .malformed

/-! ## Making values -/

abbrev Builds {α : Type} (nodes : Nodes) (m : Building α) : Prop :=
  Keeps (fun b => Nodes.Merged nodes b.nodes) (Culprit nodes) (fun _ => True) m

namespace Building

theorem builds_node (i : Nat) : Builds nodes (node i) :=
  keeps_bind keeps_get fun _ => keeps_pure trivial

theorem keeps_node_mapping (i : Nat) :
    Keeps (fun b => Nodes.Merged nodes b.nodes) (Culprit nodes)
      (fun n => ∀ entries, n.content = .mapping entries → nodes.IsMapping i) (node i) :=
  keeps_get_inv.bind fun _ hb =>
    keeps_pure fun entries hentries => hb.isMapping_iff.mp ⟨entries, hentries⟩

theorem builds_put (i : Nat) (layer : Layer Nat) : Builds nodes (put i layer) :=
  keeps_modify fun _ hb => hb

theorem builds_putNew (layer : Layer Nat) : Builds nodes (putNew layer) :=
  keeps_bind keeps_get fun _ => keeps_bind (keeps_modify fun _ hb => hb) fun _ => keeps_pure trivial

/-- The one step that looks into a scalar. -/
theorem builds_make (i : Nat) : Builds nodes (make i) := by
  refine keeps_bind keeps_get fun b => ?_
  split
  · exact keeps_pure trivial
  · refine keeps_bind (builds_node i) fun node => ?_
    split
    · refine keeps_bind (builds_put i _) fun _ => ?_
      exact keeps_bind (keeps_modify fun _ hb => hb) fun _ => keeps_pure trivial
    · refine keeps_get_inv.bind fun b hb => ?_
      refine keeps_bind (keeps_lift (guarded_scalarOf hb i)) fun s => ?_
      exact keeps_bind (builds_put i _) fun _ => keeps_pure trivial

/-! ## Collections -/

theorem builds_makeKey (i : Nat) : Builds nodes (makeKey i) := by
  refine keeps_bind (builds_make i) fun layer => ?_
  split
  · exact keeps_bind keeps_get fun _ => keeps_pure trivial
  · exact keeps_throw

theorem builds_makeEntries (made : List (Key × Nat)) (entries : List (Nat × Nat)) :
    Builds nodes (makeEntries made entries) := by
  induction entries generalizing made with
  | nil => exact keeps_pure trivial
  | cons entry rest ih =>
    exact keeps_bind (builds_makeKey _) fun _ => keeps_bind (builds_make _) fun _ => ih _

theorem builds_entriesOf (i : Nat) : Builds nodes (entriesOf i) := by
  refine (keeps_node_mapping i).bind fun node hnode => ?_
  split
  · rename_i entries hentries
    refine keeps_get_inv.bind fun b hb => ?_
    have hmerge : Guarded (Culprit nodes) (Nodes.Merged nodes) (b.nodes.merge i) :=
      (Nodes.merges_merge (hb.isMapping_iff.mpr (hnode entries hentries))).mono
        (fun _ ⟨he, hroom⟩ => he ▸ .merges (hroom.trans_le hb.mergeKeys_le))
        fun _ ⟨hnodes, _⟩ => hb.trans hnodes
    refine (keeps_lift hmerge).bind fun nodes' hnodes' => ?_
    exact keeps_bind (keeps_modify fun _ _ => hnodes') fun _ => builds_makeEntries _ _
  · exact keeps_throw

theorem builds_itemsOf (i : Nat) : Builds nodes (itemsOf i) := by
  refine keeps_bind (builds_node i) fun node => ?_
  split
  · exact keeps_pure trivial
  · exact keeps_throw

theorem builds_makePair (i : Nat) : Builds nodes (makePair i) := by
  refine keeps_bind (builds_node i) fun node => ?_
  split
  · exact keeps_bind (builds_make _) fun _ => keeps_bind (builds_make _) fun _ => builds_putNew _
  · exact keeps_throw

/-! ## Documents -/

theorem builds_fill (i : Nat) : Builds nodes (fill i) := by
  refine keeps_bind (builds_node i) fun node => ?_
  split
  · exact keeps_bind (builds_entriesOf i) fun _ => builds_put i _
  · exact keeps_bind (builds_entriesOf i) fun _ => builds_put i _
  · refine keeps_bind (builds_itemsOf i) fun items => ?_
    refine keeps_bind (keeps_forIn items _ fun item _ => ?_) fun _ => builds_put i _
    exact keeps_bind (builds_make item) fun _ => keeps_pure trivial
  · refine keeps_bind (builds_itemsOf i) fun items => ?_
    exact keeps_bind (keeps_mapM items builds_makePair) fun _ => builds_put i _

theorem builds_fillFrom (next steps : Nat) : Builds nodes (fillFrom next steps) := by
  induction steps generalizing next with
  | zero => exact keeps_pure trivial
  | succ steps ih =>
    refine keeps_bind keeps_get fun b => ?_
    split
    · exact keeps_pure trivial
    · exact keeps_bind (builds_fill _) fun _ => ih (next + 1)

theorem builds_document (root : Nat) : Builds nodes (document root) :=
  keeps_bind (builds_make root) fun _ => keeps_bind keeps_get fun _ => builds_fillFrom 0 _

end Building

theorem Document.guarded_value (d : Document) :
    Guarded (Culprit d.nodes) (fun _ => True) d.value :=
  (Building.builds_document d.root ⟨d.nodes, Array.replicate d.nodes.size none, #[]⟩
    (Nodes.Merged.refl d.nodes)).bind fun _ _ => .ok trivial

theorem blame_of_load {text : String} {e : ScalarError} (h : load text = .error (.scalar e)) :
    ScanFault text.toList e ∨ (e = .endless ∧ Reach.nodes < 2 * nesting (tokens text)) ∨
      ∃ d, Document.ofText? text = .ok (some d) ∧ Culprit d.nodes e := by
  unfold load at h
  rcases bind_eq_error_iff.mp h with hread | ⟨found, hread, h⟩
  · exact (blame_of_ofText? hread).imp_right .inl
  · cases found with
    | none => cases h
    | some d =>
      have hvalue := d.guarded_value
      rw [show d.value = .error (.scalar e) from h] at hvalue
      cases hvalue with
      | scalar hculprit => exact .inr (.inr ⟨d, hread, hculprit⟩)

end Mailroom.Yaml
