import Mailroom.Proofs.Level.NormalForm

/-!
# Plain and tagged cells

Two checks decide whether an item of a test case is a cell. A plain item is converted, and the first
that cannot be converted decides about its whole list. A tagged item is left to the check of a
mapping, which collects its faults. Both ask the same of the integer, so it does not matter which of
the two an item is handed to: putting it into a mapping as the value changes nothing
(`Retagged.takenAsCell_iff`).
-/

set_option autoImplicit false

namespace Mailroom

variable {d e : Data}

def Data.IsMapping (d : Data) : Prop := ∃ entries, d = .map entries

/-- An item, and the same item or, unless it is a mapping, a mapping that has it as the value. The
mapping is tagged with the kind of cells or with nothing. -/
inductive Retagged : Data → Data → Prop
  | same (d : Data) : Retagged d d
  | tagged {d : Data} (hd : ¬ d.IsMapping) :
    Retagged d (.map [("kind", .text "int"), ("value", d)])
  | untagged {d : Data} (hd : ¬ d.IsMapping) : Retagged d (.map [("value", d)])

theorem Data.isMapping_of_isTagged {n : Int} (h : IsTagged d n) : d.IsMapping := by
  obtain ⟨entries, v, hlayer, -⟩ := h
  cases d with
  | map entries => exact ⟨entries, rfl⟩
  | scalar | list => cases hlayer

theorem isTagged_iff_of_value {entries : List (Scalar × Data)} {n : Int}
    (hlayer : Layered.layer e = .map entries)
    (hkind : ∀ k, Layer.field? "kind" entries = some k →
      Layered.layer k = .scalar (.text Cell.kind))
    (hvalue : Layer.field? "value" entries = some d) : IsTagged e n ↔ IsInt d n := by
  simp only [IsTagged, hlayer, Layer.map.injEq, exists_and_left, exists_eq_left']
  rw [and_iff_right hkind]
  simp [hvalue]

/-- A mapping is no integer, so of the two forms of a cell only one is left on either side. -/
theorem Retagged.takenAsCell_iff {c : Cell} (h : Retagged d e) :
    TakenAsCell d c ↔ TakenAsCell e c := by
  have hplain (hd : ¬ d.IsMapping) : TakenAsCell d c ↔ IsInt d c.value :=
    or_iff_left fun htagged => hd (Data.isMapping_of_isTagged htagged)
  have hmapping (entries : List (String × Data)) :
      TakenAsCell (Data.map entries) c ↔ IsTagged (Data.map entries) c.value :=
    or_iff_right fun hint => by cases hint
  cases h with
  | same => exact Iff.rfl
  | tagged hd =>
    rw [hplain hd, hmapping]
    refine (isTagged_iff_of_value rfl (fun k hk => ?_) rfl).symm
    cases hk
    rfl
  | untagged hd =>
    rw [hplain hd, hmapping]
    refine (isTagged_iff_of_value rfl (fun k hk => ?_) rfl).symm
    cases hk

theorem forall₂_takenAsCell_iff {items items' : List Data} {cs : List Cell}
    (h : List.Forall₂ Retagged items items') :
    List.Forall₂ TakenAsCell items cs ↔ List.Forall₂ TakenAsCell items' cs := by
  induction h generalizing cs with
  | nil => exact Iff.rfl
  | cons hitem _ ih =>
    rw [List.forall₂_cons_left_iff, List.forall₂_cons_left_iff]
    simp only [hitem.takenAsCell_iff, ih]

namespace TestCase

/-- The data is a mapping with these items for input and output. -/
structure Gives (d : Data) (inputs outputs : List Data) : Prop where
  input : d.field? "input" = some (.list inputs)
  output : d.field? "output" = some (.list outputs)

theorem Gives.takenAsTest_iff {inputs outputs : List Data} {t : TestCase}
    (h : Gives d inputs outputs) :
    TakenAsTest d t ↔
      List.Forall₂ TakenAsCell inputs t.input ∧ List.Forall₂ TakenAsCell outputs t.output := by
  obtain ⟨entries, hlayer, hinput, hfield⟩ := Data.exists_entries_of_field? h.input
  have houtput := h.output
  rw [hfield] at houtput
  have hlist (items : List Data) (cs : List Cell) :
      TakenAsCells (Data.list items) cs ↔ List.Forall₂ TakenAsCell items cs := Iff.rfl
  simp [TakenAsTest, FieldCells, hlayer, hinput, houtput, hlist]

/-- **Plain and tagged cells are judged alike.** Of a test case whose input and output are lists of
any items, put any items that are not mappings into mappings as their values. The check takes what
comes of it exactly if it takes the test case, and the result is the same: the cells that the items
are, be they plain or tagged. -/
theorem check_ignores_tags (d e : Data) (inputs inputs' outputs outputs' : List Data)
    (hd : Gives d inputs outputs) (he : Gives e inputs' outputs')
    (hinputs : List.Forall₂ Retagged inputs inputs')
    (houtputs : List.Forall₂ Retagged outputs outputs') (t : TestCase) :
    (check d = .ok t ↔
      List.Forall₂ TakenAsCell inputs t.input ∧ List.Forall₂ TakenAsCell outputs t.output) ∧
    (check e = .ok t ↔ check d = .ok t) := by
  rw [check_eq_ok_iff, check_eq_ok_iff, hd.takenAsTest_iff, he.takenAsTest_iff,
    forall₂_takenAsCell_iff hinputs, forall₂_takenAsCell_iff houtputs]
  exact ⟨Iff.rfl, Iff.rfl⟩

/-- A tagged item between two plain ones, of which the first is put into a mapping; and a truth
value, which is no cell in either form. -/
theorem check_ignores_tags_in_mixed_list :
    let plain : Data → Data := fun x => .map [("output", .list []), ("input",
      .list [.int 5, .map [("value", .int (-2))], x])]
    let tagged : Data → Data := fun x => .map [("input",
      .list [.map [("kind", .text "int"), ("value", .int 5)], .map [("value", .int (-2))],
        .map [("value", x)]]), ("output", .list [])]
    let t : TestCase := ⟨[⟨5, by decide⟩, ⟨-2, by decide⟩, ⟨7, by decide⟩], []⟩
    (check (plain (.int 7)) = .ok t ∧ check (tagged (.int 7)) = .ok t) ∧
    ∀ u, check (plain (.scalar (.bool true))) ≠ .ok u ∧
      check (tagged (.scalar (.bool true))) ≠ .ok u := by
  intro plain tagged t
  have hretagged (x : Data) (hx : ¬ x.IsMapping) :
      List.Forall₂ Retagged [.int 5, .map [("value", .int (-2))], x]
        [.map [("kind", .text "int"), ("value", .int 5)], .map [("value", .int (-2))],
          .map [("value", x)]] :=
    .cons (.tagged (by rintro ⟨_, h⟩; cases h)) (.cons (.same _) (.cons (.untagged hx) .nil))
  have halike (x : Data) (hx : ¬ x.IsMapping) (u : TestCase) :=
    check_ignores_tags (plain x) (tagged x) _ _ _ _ ⟨rfl, rfl⟩ ⟨rfl, rfl⟩ (hretagged x hx) .nil u
  have hseven : check (plain (.int 7)) = .ok t := rfl
  have htrue (u : TestCase) : check (plain (.scalar (.bool true))) ≠ .ok u := by
    intro h
    cases h
  refine ⟨⟨hseven, (halike (.int 7) (by rintro ⟨_, h⟩; cases h) t).2.mpr hseven⟩, fun u => ?_⟩
  have hsame := (halike (.scalar (.bool true)) (by rintro ⟨_, h⟩; cases h) u).2
  exact ⟨htrue u, fun h => htrue u (hsame.mp h)⟩

end TestCase

end Mailroom
