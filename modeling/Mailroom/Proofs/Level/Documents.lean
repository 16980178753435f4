import Mailroom.Level.Yaml
import Mailroom.Proofs.Level.Grammar
import Mailroom.Proofs.Level.NormalForm

/-!
# Levels in documents, and as data

The values of a document lie at places, and those of a request are trees. Whoever looks at them one
layer at a time cannot tell the two apart: if a relation holds layer by layer (`Layerwise`), then
what is taken as a level on one side is taken as the same level on the other. So a document that
unfolds to a tree (`Unfolds`) can be compared with what the check makes of the tree.

The two differ in the tests. The reader of documents takes everything that is blank for no tests at
all, be it false, zero, an empty text or an empty mapping, and the check refuses it. Where the tests
are left out, null or a list, the two agree.
-/

set_option autoImplicit false

namespace Mailroom

open Schema

/-! ## Values that look alike -/

section

variable {α β : Type} {R : α → β → Prop}

def Layer.EntriesAlike (R : α → β → Prop) : List (Scalar × α) → List (Scalar × β) → Prop :=
  List.Forall₂ fun x y => x.1 = y.1 ∧ R x.2 y.2

/-- The layers are the same but for their parts, and these are related. -/
inductive Layer.Alike (R : α → β → Prop) : Layer α → Layer β → Prop
  | scalar (s : Scalar) : Alike R (.scalar s) (.scalar s)
  | list {xs : List α} {ys : List β} (h : List.Forall₂ R xs ys) : Alike R (.list xs) (.list ys)
  | tuple {xs : List α} {ys : List β} (h : List.Forall₂ R xs ys) : Alike R (.tuple xs) (.tuple ys)
  | set {xs : List α} {ys : List β} (h : List.Forall₂ R xs ys) : Alike R (.set xs) (.set ys)
  | map {xs : List (Scalar × α)} {ys : List (Scalar × β)} (h : EntriesAlike R xs ys) :
    Alike R (.map xs) (.map ys)

namespace Layer

theorem entriesAlike_of_keys {entries : List (Scalar × α)} {ds : List (String × β)}
    (hkeys : entries.map Prod.fst = ds.map fun y => .text y.1)
    (hvalues : List.Forall₂ R (entries.map Prod.snd) (ds.map Prod.snd)) :
    EntriesAlike R entries (ds.map fun (k, v) => (.text k, v)) := by
  induction entries generalizing ds with
  | nil =>
    cases ds with
    | nil => exact .nil
    | cons y ds => cases hkeys
  | cons x entries ih =>
    cases ds with
    | nil => cases hkeys
    | cons y ds =>
      obtain ⟨hkey, hkeys⟩ := List.cons.inj hkeys
      obtain ⟨hvalue, hvalues⟩ := List.forall₂_cons.mp hvalues
      exact .cons ⟨hkey, hvalue⟩ (ih hkeys hvalues)

theorem EntriesAlike.flip {xs : List (Scalar × α)} {ys : List (Scalar × β)}
    (h : EntriesAlike R xs ys) : EntriesAlike (fun b a => R a b) ys xs :=
  (List.Forall₂.flip h).imp fun _ _ hxy => ⟨hxy.1.symm, hxy.2⟩

theorem Alike.flip {x : Layer α} {y : Layer β} (h : Alike R x y) :
    Alike (fun b a => R a b) y x := by
  cases h with
  | scalar s => exact .scalar s
  | list h => exact .list h.flip
  | tuple h => exact .tuple h.flip
  | set h => exact .set h.flip
  | map h => exact .map h.flip

theorem Alike.isBlank_eq {x : Layer α} {y : Layer β} (h : Alike R x y) :
    x.isBlank = y.isBlank := by
  cases h with
  | scalar s => rfl
  | list h | tuple h | set h | map h => cases h <;> rfl

theorem EntriesAlike.field? {xs : List (Scalar × α)} {ys : List (Scalar × β)}
    (h : EntriesAlike R xs ys) (name : String) :
    Option.Rel R (field? name xs) (field? name ys) := by
  induction h with
  | nil => exact .none
  | @cons x y _ _ hxy _ ih =>
    obtain ⟨k, a⟩ := x
    obtain ⟨_, b⟩ := y
    obtain ⟨rfl, hab⟩ := hxy
    simp only [Layer.field?, lookup?] at ih ⊢
    split
    · exact .some hab
    · exact ih

theorem EntriesAlike.exists_field? {xs : List (Scalar × α)} {ys : List (Scalar × β)}
    {name : String} {a : α} (h : EntriesAlike R xs ys) (ha : Layer.field? name xs = some a) :
    ∃ b, Layer.field? name ys = some b ∧ R a b := by
  have hrel := h.field? name
  rw [ha] at hrel
  generalize Layer.field? name ys = found at hrel ⊢
  cases hrel with
  | some hab => exact ⟨_, rfl, hab⟩

theorem EntriesAlike.field?_eq_none {xs : List (Scalar × α)} {ys : List (Scalar × β)}
    {name : String} (h : EntriesAlike R xs ys) (hnone : Layer.field? name xs = none) :
    Layer.field? name ys = none := by
  have hrel := h.field? name
  rw [hnone] at hrel
  generalize Layer.field? name ys = found at hrel ⊢
  cases hrel
  rfl

end Layer

theorem forall₂_of_related {γ : Type} {P : α → γ → Prop} {Q : β → γ → Prop} {xs : List α}
    {ys : List β} {cs : List γ} (hPQ : ∀ a b c, R a b → P a c → Q b c)
    (hxs : List.Forall₂ R xs ys) (h : List.Forall₂ P xs cs) : List.Forall₂ Q ys cs :=
  (exists_forall₂_iff.mp ⟨xs, hxs.flip, h⟩).imp fun b c ⟨a, hab, hac⟩ => hPQ a b c hab hac

variable [Layered α] [Layered β]

/-- Related values have the same layer, and their parts are related again. -/
def Layerwise (R : α → β → Prop) : Prop :=
  ∀ a b, R a b → Layer.Alike R (Layered.layer a) (Layered.layer b)

theorem Layerwise.flip (hR : Layerwise R) : Layerwise fun b a => R a b :=
  fun b a h => (hR a b h).flip

namespace Layerwise

variable {a : α} {b : β} (hR : Layerwise R) (hab : R a b)

include hR hab

theorem layer_eq_scalar {s : Scalar} (h : Layered.layer a = .scalar s) :
    Layered.layer b = .scalar s := by
  have halike := hR a b hab
  rw [h] at halike
  generalize Layered.layer b = y at halike ⊢
  cases halike
  rfl

theorem exists_entries {xs : List (Scalar × α)} (h : Layered.layer a = .map xs) :
    ∃ ys, Layered.layer b = .map ys ∧ Layer.EntriesAlike R xs ys := by
  have halike := hR a b hab
  rw [h] at halike
  generalize Layered.layer b = y at halike ⊢
  cases halike with
  | map hys => exact ⟨_, rfl, hys⟩

/-! ### What is taken on one side is taken on the other -/

theorem takenAsInt {n : Int} (h : TakenAsInt a n) : TakenAsInt b n := by
  obtain ⟨s, hs, hn⟩ := h
  exact ⟨s, hR.layer_eq_scalar hab hs, hn⟩

theorem takenAsGoals {g : Goals} (h : TakenAsGoals a g) : TakenAsGoals b g := by
  obtain ⟨xs, hxs, ⟨s, hs, hsize⟩, ⟨v, hv, hspeed⟩⟩ := h
  obtain ⟨ys, hys, hfields⟩ := hR.exists_entries hab hxs
  obtain ⟨s', hs', hss⟩ := hfields.exists_field? hs
  obtain ⟨v', hv', hvv⟩ := hfields.exists_field? hv
  exact ⟨ys, hys, ⟨s', hs', hR.takenAsInt hss hsize⟩, ⟨v', hv', hR.takenAsInt hvv hspeed⟩⟩

theorem isTagged {n : Int} (h : IsTagged a n) : IsTagged b n := by
  obtain ⟨xs, v, hxs, hkind, hv, hint⟩ := h
  obtain ⟨ys, hys, hfields⟩ := hR.exists_entries hab hxs
  obtain ⟨v', hv', hvv⟩ := hfields.exists_field? hv
  refine ⟨ys, v', hys, fun k hk => ?_, hv', hR.layer_eq_scalar hvv hint⟩
  -- a tag on this side is one on the other, where it was looked at
  obtain ⟨k', hk', hkk⟩ := hfields.flip.exists_field? hk
  exact hR.layer_eq_scalar hkk (hkind k' hk')

theorem takenAsCell {c : Cell} (h : TakenAsCell a c) : TakenAsCell b c :=
  h.imp (hR.layer_eq_scalar hab) (hR.isTagged hab)

theorem takenAsCells {cs : List Cell} (h : TakenAsCells a cs) : TakenAsCells b cs := by
  have halike := hR a b hab
  unfold TakenAsCells at h ⊢
  generalize Layered.layer a = x at halike h
  generalize Layered.layer b = y at halike ⊢
  have hcell : ∀ x y (c : Cell), R x y → TakenAsCell x c → TakenAsCell y c :=
    fun _ _ _ hxy => hR.takenAsCell hxy
  have htagged : ∀ x y (c : Cell), R x y → IsTagged x c.value → IsTagged y c.value :=
    fun _ _ _ hxy => hR.isTagged hxy
  cases halike with
  | scalar | map => exact h
  | list hxs | tuple hxs => exact forall₂_of_related hcell hxs h
  | set hxs => exact forall₂_of_related htagged hxs h

theorem takenAsTest {t : TestCase} (h : TakenAsTest a t) : TakenAsTest b t := by
  obtain ⟨xs, hxs, hinput, houtput⟩ := h
  obtain ⟨ys, hys, hfields⟩ := hR.exists_entries hab hxs
  have hcells (name : String) (cs : List Cell) (h : FieldCells name xs cs) :
      FieldCells name ys cs := by
    rcases h with ⟨hnone, rfl⟩ | ⟨x, hx, hcs⟩
    · exact Or.inl ⟨hfields.field?_eq_none hnone, rfl⟩
    · obtain ⟨y, hy, hxy⟩ := hfields.exists_field? hx
      exact Or.inr ⟨y, hy, hR.takenAsCells hxy hcs⟩
  exact ⟨ys, hys, hcells _ _ hinput, hcells _ _ houtput⟩

end Layerwise

end

/-! ## Documents that are trees -/

section

variable {α : Type} [Layered α] {a : α} {d : Data}

/-- The value is this tree: it has no tuples, no sets and no keys but texts, and it ends. -/
inductive Unfolds : α → Data → Prop
  | scalar {a : α} {s : Scalar} (h : Layered.layer a = .scalar s) : Unfolds a (.scalar s)
  | list {a : α} {items : List α} {ds : List Data} (h : Layered.layer a = .list items)
    (hitems : List.Forall₂ Unfolds items ds) : Unfolds a (.list ds)
  | map {a : α} {entries : List (Scalar × α)} {ds : List (String × Data)}
    (h : Layered.layer a = .map entries)
    (hkeys : entries.map Prod.fst = ds.map fun y => .text y.1)
    (hvalues : List.Forall₂ Unfolds (entries.map Prod.snd) (ds.map Prod.snd)) : Unfolds a (.map ds)

theorem layerwise_unfolds : Layerwise fun (a : α) d => Unfolds a d := by
  intro a d h
  cases h with
  | scalar h =>
    rw [h]
    exact .scalar _
  | list h hitems =>
    rw [h]
    exact .list hitems
  | map h hkeys hvalues =>
    rw [h]
    exact .map (Layer.entriesAlike_of_keys hkeys hvalues)

theorem Unfolds.goalsCheck_eq_ok_iff {g : Goals} (h : Unfolds a d) :
    Goals.check a = .ok g ↔ Goals.check d = .ok g := by
  rw [Goals.check_eq_ok_iff, Goals.check_eq_ok_iff]
  exact ⟨layerwise_unfolds.takenAsGoals h, layerwise_unfolds.flip.takenAsGoals h⟩

theorem Unfolds.testCheck_eq_ok_iff {t : TestCase} (h : Unfolds a d) :
    TestCase.check a = .ok t ↔ TestCase.check d = .ok t := by
  rw [TestCase.check_eq_ok_iff, TestCase.check_eq_ok_iff]
  exact ⟨layerwise_unfolds.takenAsTest h, layerwise_unfolds.flip.takenAsTest h⟩

/-! ## The tests of a document -/

/-- These are the tests of the data. There are none where the field is left out or null. -/
inductive Data.GivesTests (d : Data) : List Data → Prop
  | absent (h : d.field? "tests" = none) : GivesTests d []
  | null (h : d.field? "tests" = some (.scalar .null)) : GivesTests d []
  | list {items : List Data} (h : d.field? "tests" = some (.list items)) : GivesTests d items

namespace Level

variable {level : Level} {g : Data}

theorem check_mapping_eq_ok_iff {t : Data} :
    check (Data.map [("goals", g), ("tests", t)]) = .ok level ↔
      Goals.check g = .ok level.goals ∧
        ∃ items, (Layered.layer t).items? = some items ∧
          List.Forall₂ (fun d u => TestCase.check d = .ok u) items level.tests := by
  simp only [TestCase.check_eq_ok_iff]
  have hcheck : check (Data.map [("goals", g), ("tests", t)]) =
      checkParts (Goals.check g)
        (checkTests [(.text "goals", g), (.text "tests", t)]) := rfl
  have htests : Layer.field? "tests" [(.text "goals", g), (.text "tests", t)] = some t := rfl
  rw [hcheck, checkParts_eq_ok_iff, checkTests_eq_ok_iff, htests]
  simp

theorem testsOf_of_absent {xs : List (Scalar × α)} (h : Layer.field? "tests" xs = none) :
    testsOf xs = .ok [] := by
  simp only [testsOf, h]

theorem testsOf_of_list {xs : List (Scalar × α)} {t : α} {items : List α}
    (h : Layer.field? "tests" xs = some t) (ht : Layered.layer t = .list items) :
    testsOf xs = .ok items := by
  simp only [testsOf, h, ht]

theorem testsOf_of_other {xs : List (Scalar × α)} {t : α} (h : Layer.field? "tests" xs = some t)
    (ht : ∀ items, Layered.layer t ≠ .list items) :
    testsOf xs =
      if (Layered.layer t).isBlank then .ok [] else .error (.level .testsNotList) := by
  simp only [testsOf, h]

theorem testsOf_unfolded_of_other {xs : List (Scalar × α)} {ys : List (Scalar × Data)} {t : Data}
    (halike : Layer.EntriesAlike (fun d (a : α) => Unfolds a d) ys xs)
    (ht : Layer.field? "tests" ys = some t) (hlist : ∀ items, t ≠ .list items) :
    testsOf xs =
      if (Layered.layer t).isBlank then .ok [] else .error (.level .testsNotList) := by
  obtain ⟨u, hu, hut⟩ := halike.exists_field? ht
  rw [testsOf_of_other hu, (layerwise_unfolds u t hut).isBlank_eq]
  intro items hitems
  cases hut with
  | list => exact hlist _ rfl
  | scalar hs | map hs =>
    rw [hs] at hitems
    cases hitems

theorem ofData_eq_ok_iff {xs : List (Scalar × α)} {goals : α} {items : List α}
    (hlayer : Layered.layer a = .map xs) (hgoals : Layer.field? "goals" xs = some goals)
    (htests : testsOf xs = .ok items) :
    ofData a = .ok level ↔ Goals.check goals = .ok level.goals ∧
      List.Forall₂ (fun b u => TestCase.check b = .ok u) items level.tests := by
  simp only [ofData, hlayer, hgoals, htests]
  rw [checked_eq_ok_iff, checkParts_eq_ok_iff, Checked.each_eq_ok_iff]

/-- A document is read as the tree that it unfolds to is checked, with the tests that were read. -/
theorem ofData_unfolded_iff {xs : List (Scalar × α)} {goals : α} {items : List α}
    {tests : List Data} (hlayer : Layered.layer a = .map xs)
    (hgoals : Layer.field? "goals" xs = some goals) (hg : Unfolds goals g)
    (htests : testsOf xs = .ok items) (hitems : List.Forall₂ Unfolds items tests) :
    ofData a = .ok level ↔ check (Data.map [("goals", g), ("tests", .list tests)]) = .ok level := by
  have hlist : (Layered.layer (Data.list tests)).items? = some tests := rfl
  have hforth : ∀ (b : α) (e : Data) (u : TestCase), Unfolds b e → TestCase.check b = .ok u →
      TestCase.check e = .ok u := fun _ _ _ h => h.testCheck_eq_ok_iff.mp
  have hback : ∀ (e : Data) (b : α) (u : TestCase), Unfolds b e → TestCase.check e = .ok u →
      TestCase.check b = .ok u := fun _ _ _ h => h.testCheck_eq_ok_iff.mpr
  rw [ofData_eq_ok_iff hlayer hgoals htests, check_mapping_eq_ok_iff, hg.goalsCheck_eq_ok_iff]
  simp only [hlist, Option.some.injEq, exists_eq_left']
  exact and_congr_right fun _ =>
    ⟨forall₂_of_related hforth hitems, forall₂_of_related hback hitems.flip⟩

end Level

end

namespace Level

/-- **Documents and data with the same tests are the same level.** Let a document unfold to a
mapping with goals. If its tests are left out, null or a list, then it is read exactly if the check
takes the mapping of these goals and tests, and as the same level. Any other tests are refused by
the check. The reader refuses them too, unless they are blank: then it reads a level without tests.
-/
theorem ofYaml_takes_blank_for_no_tests [Yaml.Reach] (text : String) (v : Yaml.Value)
    (d g : Data) (hload : Yaml.load text = .ok v) (hd : Unfolds v d)
    (hg : d.field? "goals" = some g) :
    (∀ tests, d.GivesTests tests → ∀ level, ofYaml text = .ok level ↔
      check (Data.map [("goals", g), ("tests", .list tests)]) = .ok level) ∧
    ∀ t, d.field? "tests" = some t → (¬ ∃ tests, d.GivesTests tests) →
      (∀ level, check (Data.map [("goals", g), ("tests", t)]) ≠ .ok level) ∧
      ((Layered.layer t).isBlank = true → ∀ level, ofYaml text = .ok level ↔
        check (Data.map [("goals", g), ("tests", .list [])]) = .ok level) ∧
      ((Layered.layer t).isBlank = false → ofYaml text = .error (.level .testsNotList)) := by
  have hyaml : ofYaml text = ofData v := by rw [ofYaml, hload]
  obtain ⟨ys, hys, hgoals, hfield⟩ := Data.exists_entries_of_field? hg
  obtain ⟨xs, hxs, halike⟩ := layerwise_unfolds.flip.exists_entries hd hys
  obtain ⟨goals, hgoals', hunfolds⟩ := halike.exists_field? hgoals
  have hread {items : List Yaml.Value} {tests : List Data} (htests : testsOf xs = .ok items)
      (hitems : List.Forall₂ Unfolds items tests) (level : Level) : ofData v = .ok level ↔
        check (Data.map [("goals", g), ("tests", .list tests)]) = .ok level :=
    ofData_unfolded_iff hxs hgoals' hunfolds htests hitems
  have hother {t : Data} (ht : d.field? "tests" = some t) (hlist : ∀ items, t ≠ .list items) :=
    testsOf_unfolded_of_other halike (hfield "tests" ▸ ht) hlist
  rw [hyaml]
  refine ⟨fun tests htests level => ?_, fun t ht hnone => ?_⟩
  · cases htests with
    | absent h =>
      rw [hfield] at h
      exact hread (testsOf_of_absent (halike.field?_eq_none h)) .nil level
    | null h => exact hread (hother h (fun _ h => by cases h)) .nil level
    | list h =>
      rw [hfield] at h
      obtain ⟨u, hu, hut⟩ := halike.exists_field? h
      cases hut with
      | list hlayer hitems => exact hread (testsOf_of_list hu hlayer) hitems level
  · have hlist : ∀ items, t ≠ .list items := by
      rintro items rfl
      exact hnone ⟨items, .list ht⟩
    refine ⟨fun level hcheck => ?_, fun hblank level => ?_, fun hfilled => ?_⟩
    · obtain ⟨-, items, hitems, -⟩ := check_mapping_eq_ok_iff.mp hcheck
      cases t with
      | list items => exact hlist items rfl
      | scalar | map => cases hitems
    · exact hread ((hother ht hlist).trans (if_pos hblank)) .nil level
    · have htests := (hother ht hlist).trans (if_neg (by simp [hfilled]))
      simp only [ofData, hxs, hgoals', htests]

def documentWith (tests : String) : String :=
  "goals:\n  size: 2\n  speed: 6\ntests: " ++ tests ++ "\n"

/-- The places of such a document. The tests and their parts come last. -/
def placesWith (tests : List (Layer Nat)) : Yaml.Places :=
  List.toArray (.map [(.text "goals", 2), (.text "tests", 8)] :: .scalar (.text "goals") ::
    .map [(.text "size", 4), (.text "speed", 6)] :: .scalar (.text "size") :: .scalar (.int 2) ::
    .scalar (.text "speed") :: .scalar (.int 6) :: .scalar (.text "tests") :: tests)

theorem unfolds_placesWith {tests : List (Layer Nat)} {t : Data}
    (h : Unfolds (⟨placesWith tests, 8⟩ : Yaml.Value) t) :
    Unfolds (⟨placesWith tests, 0⟩ : Yaml.Value)
      (.map [("goals", .map [("size", .int 2), ("speed", .int 6)]), ("tests", t)]) := by
  have hgoals : Unfolds (⟨placesWith tests, 2⟩ : Yaml.Value)
      (.map [("size", .int 2), ("speed", .int 6)]) :=
    .map rfl rfl (.cons (.scalar rfl) (.cons (.scalar rfl) .nil))
  exact .map rfl rfl (.cons hgoals (.cons h .nil))

theorem ofYaml_takes_blank_for_no_tests_as_written :
    ofYaml (documentWith "\n- input: [5]") = .ok ⟨⟨2, 6⟩, [⟨[⟨5, by decide⟩], []⟩]⟩ ∧
    ofYaml (documentWith "0") = .ok ⟨⟨2, 6⟩, []⟩ := by
  have hlist : Yaml.load (documentWith "\n- input: [5]") = .ok ⟨placesWith [.list [9],
      .map [(.text "input", 11)], .scalar (.text "input"), .list [12], .scalar (.int 5)], 0⟩ := by
    decide +kernel
  have hzero : Yaml.load (documentWith "0") = .ok ⟨placesWith [.scalar (.int 0)], 0⟩ := by
    decide +kernel
  have htests : Unfolds (⟨placesWith [.list [9], .map [(.text "input", 11)],
      .scalar (.text "input"), .list [12], .scalar (.int 5)], 8⟩ : Yaml.Value)
        (.list [.map [("input", .list [.int 5])]]) :=
    .list rfl (.cons (.map rfl rfl (.cons (.list rfl (.cons (.scalar rfl) .nil)) .nil)) .nil)
  have hnone : ¬ ∃ tests, Data.GivesTests (.map [("goals", .map [("size", .int 2),
      ("speed", .int 6)]), ("tests", .int 0)]) tests := by
    rintro ⟨tests, h | h | h⟩ <;> cases h
  constructor
  · exact ((ofYaml_takes_blank_for_no_tests _ _ _ _ hlist (unfolds_placesWith htests) rfl).1 _
      (.list rfl) _).mpr rfl
  · exact (((ofYaml_takes_blank_for_no_tests _ _ _ _ hzero (unfolds_placesWith (.scalar rfl))
      rfl).2 _ rfl hnone).2.1 rfl _).mpr rfl

/-- A document whose tests are the word false is read, although they are neither left out nor null
nor a list, and the check takes no level with them. -/
theorem ofYaml_reads_false_tests :
    ∃ v d, Yaml.load (documentWith "false") = .ok v ∧ Unfolds v d ∧
      ofYaml (documentWith "false") = .ok ⟨⟨2, 6⟩, []⟩ ∧
      (¬ ∃ tests, d.GivesTests tests) ∧ ∀ level, check d ≠ .ok level := by
  refine ⟨⟨placesWith [.scalar (.bool false)], 0⟩, _, ?load, unfolds_placesWith (.scalar rfl),
    ?read, ?tests, fun level h => ?_⟩
  case load => decide +kernel
  case read => decide +kernel
  case tests => rintro ⟨tests, h | h | h⟩ <;> cases h
  cases h

end Level

end Mailroom
