import Mailroom.Proofs.Level.Check

/-!
# Levels as data

A level that was checked can be written as data and checked again. There are many ways to write it:
the fields may stand in any order, among others that nobody looks at, and each cell may be a plain
integer or a tagged mapping, whatever its neighbours are. All of them are taken as the same level
(`Level.EncodedBy.takenAsLevel`), so what the check gives is a normal form of what it was given.
-/

set_option autoImplicit false

namespace Mailroom

def Data.field? (d : Data) (name : String) : Option Data :=
  match Layered.layer d with
  | .map entries => Layer.field? name entries
  | _ => none

/-! ## Writing levels -/

/-- The data is the cell as an integer, or as a mapping that is tagged with its kind. -/
def Cell.EncodedBy (c : Cell) (d : Data) : Prop :=
  d = .int c.value ∨ (d.field? "kind" = some (.text "int") ∧ d.field? "value" = some (.int c.value))

structure Goals.EncodedBy (g : Goals) (d : Data) : Prop where
  size : d.field? "size" = some (.int g.size)
  speed : d.field? "speed" = some (.int g.speed)

structure TestCase.EncodedBy (t : TestCase) (d : Data) : Prop where
  input : ∃ items, d.field? "input" = some (.list items) ∧ List.Forall₂ Cell.EncodedBy t.input items
  output :
    ∃ items, d.field? "output" = some (.list items) ∧ List.Forall₂ Cell.EncodedBy t.output items

structure Level.EncodedBy (level : Level) (d : Data) : Prop where
  goals : ∃ g, d.field? "goals" = some g ∧ level.goals.EncodedBy g
  tests : ∃ items, d.field? "tests" = some (.list items) ∧
    List.Forall₂ TestCase.EncodedBy level.tests items

theorem TestCase.encodedBy_toData (t : TestCase) : t.EncodedBy t.toData := by
  have hplain : ∀ cs : List Cell, List.Forall₂ Cell.EncodedBy cs (cs.map Cell.toData) := by
    intro cs
    rw [List.forall₂_map_right_iff, List.forall₂_same]
    exact fun c _ => Or.inl rfl
  exact ⟨⟨_, rfl, hplain t.input⟩, ⟨_, rfl, hplain t.output⟩⟩

theorem Level.encodedBy_toData (level : Level) : level.EncodedBy level.toData := by
  refine ⟨⟨_, rfl, rfl, rfl⟩, _, rfl, ?_⟩
  rw [List.forall₂_map_right_iff, List.forall₂_same]
  exact fun t _ => t.encodedBy_toData

/-! ## Reading them back -/

theorem Data.exists_entries_of_field? {d v : Data} {name : String} (h : d.field? name = some v) :
    ∃ entries, Layered.layer d = .map entries ∧ Layer.field? name entries = some v ∧
      ∀ other, d.field? other = Layer.field? other entries := by
  unfold Data.field? at h ⊢
  split at h
  · rename_i entries hlayer
    exact ⟨entries, hlayer, h, fun _ => rfl⟩
  · cases h

theorem isInt_int (n : Int) : IsInt (Data.int n) n := rfl

theorem takenAsInt_int (n : Int) : TakenAsInt (Data.int n) n :=
  (isInt_int n).takenAsInt_iff.mpr rfl

theorem Cell.EncodedBy.takenAsCell {c : Cell} {d : Data} (h : c.EncodedBy d) : TakenAsCell d c := by
  rcases h with rfl | ⟨hkind, hvalue⟩
  · exact Or.inl (isInt_int c.value)
  · obtain ⟨entries, hlayer, hv, hfield⟩ := Data.exists_entries_of_field? hvalue
    rw [hfield] at hkind
    refine Or.inr ⟨entries, _, hlayer, fun k hk => ?_, hv, isInt_int c.value⟩
    rw [hkind] at hk
    cases hk
    rfl

theorem takenAsCells_of_encodedBy {cs : List Cell} {items : List Data}
    (h : List.Forall₂ Cell.EncodedBy cs items) : TakenAsCells (Data.list items) cs :=
  (h.imp fun _ _ hc => hc.takenAsCell).flip

theorem Goals.EncodedBy.takenAsGoals {g : Goals} {d : Data} (h : g.EncodedBy d) :
    TakenAsGoals d g := by
  obtain ⟨entries, hlayer, hsize, hfield⟩ := Data.exists_entries_of_field? h.size
  have hspeed := h.speed
  rw [hfield] at hspeed
  exact ⟨entries, hlayer, ⟨_, hsize, takenAsInt_int _⟩, ⟨_, hspeed, takenAsInt_int _⟩⟩

theorem TestCase.EncodedBy.takenAsTest {t : TestCase} {d : Data} (h : t.EncodedBy d) :
    TakenAsTest d t := by
  obtain ⟨inputs, hi, hinputs⟩ := h.input
  obtain ⟨outputs, ho, houtputs⟩ := h.output
  obtain ⟨entries, hlayer, hinput, hfield⟩ := Data.exists_entries_of_field? hi
  rw [hfield] at ho
  exact ⟨entries, hlayer, Or.inr ⟨_, hinput, takenAsCells_of_encodedBy hinputs⟩,
    Or.inr ⟨_, ho, takenAsCells_of_encodedBy houtputs⟩⟩

theorem Level.EncodedBy.takenAsLevel {level : Level} {d : Data} (h : level.EncodedBy d) :
    TakenAsLevel d level := by
  obtain ⟨g, hg, hgoals⟩ := h.goals
  obtain ⟨items, ht, hitems⟩ := h.tests
  obtain ⟨entries, hlayer, hgoal, hfield⟩ := Data.exists_entries_of_field? hg
  rw [hfield] at ht
  exact ⟨entries, hlayer, ⟨g, hgoal, hgoals.takenAsGoals⟩,
    Or.inr ⟨_, items, ht, rfl, (hitems.imp fun _ _ hc => hc.takenAsTest).flip⟩⟩

/-- **Checking gives a normal form.** The goals of a level that comes out of the check are the
integers that the data has for them, and none is negative; its cells are the integers that the data
has, plain or tagged, and all are in range. However the level is written as data again, each cell in
a form of its own, checking that gives the same level. -/
theorem Level.check_gives_normal_form (d : Data) (level : Level) (h : Level.check d = .ok level) :
    TakenAsLevel d level ∧
    (0 ≤ (level.goals.size : Int) ∧ 0 ≤ (level.goals.speed : Int)) ∧
    (∀ t ∈ level.tests, ∀ c ∈ t.input ++ t.output, -32768 ≤ c.value ∧ c.value ≤ 32767) ∧
    level.EncodedBy level.toData ∧
    ∀ e, level.EncodedBy e → Level.check e = .ok level := by
  refine ⟨Level.check_eq_ok_iff.mp h, ⟨Int.natCast_nonneg _, Int.natCast_nonneg _⟩,
    fun _ _ c _ => c.inRange, level.encodedBy_toData, fun e he => ?_⟩
  exact Level.check_eq_ok_iff.mpr he.takenAsLevel

/-- Goals as a text and as a truth value, a cell without its tag, a test case without an output and
a field that nobody reads. Written again, the tagged cell is plain and the plain one tagged. -/
theorem Level.check_gives_normal_form_of_loose_data :
    Level.check (Data.map [
      ("goals", .map [("size", .text " +07"), ("speed", .scalar (.bool true))]),
      ("title", .text "Mail Room"),
      ("tests", .list [.map [("input", .list [.int 5, .map [("value", .int (-2))]])]])])
      = .ok ⟨⟨7, 1⟩, [⟨[⟨5, by decide⟩, ⟨-2, by decide⟩], []⟩]⟩ ∧
    Level.check (Data.map [
      ("tests", .list [.map [
        ("output", .list []),
        ("input", .list [.map [("value", .int 5), ("kind", .text "int")], .int (-2)])]]),
      ("goals", .map [("speed", .int 1), ("size", .int 7)])])
      = .ok ⟨⟨7, 1⟩, [⟨[⟨5, by decide⟩, ⟨-2, by decide⟩], []⟩]⟩ := by
  refine ⟨?loose, (Level.check_gives_normal_form _ _ ?loose).2.2.2.2 _ ?written⟩
  case loose => rfl
  case written =>
    have htagged : Cell.EncodedBy ⟨5, by decide⟩
        (.map [("value", .int 5), ("kind", .text "int")]) := Or.inr ⟨rfl, rfl⟩
    have hplain : Cell.EncodedBy ⟨-2, by decide⟩ (.int (-2)) := Or.inl rfl
    refine ⟨⟨_, rfl, rfl, rfl⟩, _, rfl, ?_⟩
    exact .cons ⟨⟨_, rfl, .cons htagged (.cons hplain .nil)⟩, ⟨_, rfl, .nil⟩⟩ .nil

end Mailroom
