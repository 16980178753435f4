import Mailroom.Level.Yaml
import Mailroom.Proofs.Level.Check

/-!
# What the checks of a level quote

Of all that can be wrong with a level, one thing is put in words by quoting a value: an item of a
list of cells that is neither an integer nor a mapping. The items are converted in order, so there
is at most one such item in each list, the first (`FirstQuoted`).

A value that is nested too deep cannot be quoted. Its complaint never gets into a list of issues
that anybody sees, since `Level.checked` fails with a fault of its own where it finds it. This
module says exactly when that is: a test quotes an item, and the item has no shown form for its
depth (`ofData_eq_scalar_iff`). A value that is a tree of its own is always shown, so the fault is
one of documents only.

In a document it takes as many values inside each other as the reach allows, all of them different:
a value that contains itself is shown as dots and has no depth (`isNested_of_shown`).
-/

set_option autoImplicit false

namespace Mailroom

open Schema

/-! ## Lists of issues -/

namespace Schema.Checked

variable {α β : Type}

/-- The check comes upon a value that it has to quote and cannot, for its depth. -/
def Unquotable (x : Checked α) : Prop :=
  ∃ issues, x = .error issues ∧ ∃ i ∈ issues, i.complaint = .tooDeep

@[simp] theorem not_unquotable_ok (a : α) : ¬ Unquotable (.ok a : Checked α) := by
  rintro ⟨issues, h, -⟩
  cases h

@[simp] theorem unquotable_error {issues : List Issue} :
    Unquotable (.error issues : Checked α) ↔ ∃ i ∈ issues, i.complaint = .tooDeep := by
  simp [Unquotable]

@[simp] theorem unquotable_complain {c : Complaint} :
    Unquotable (complain c : Checked α) ↔ c = .tooDeep := by
  simp [complain]

@[simp] theorem unquotable_under {place : Place} {x : Checked α} :
    Unquotable (x.under place) ↔ Unquotable x := by
  cases x <;> simp [under]

theorem unquotable_both {x : Checked α} {y : Checked β} :
    Unquotable (both x y) ↔ Unquotable x ∨ Unquotable y := by
  cases x <;> cases y <;> simp [both, or_and_right, exists_or]

theorem unquotable_each {check : α → Checked β} {start : Nat} {as : List α} :
    Unquotable (each check start as) ↔ ∃ a ∈ as, Unquotable (check a) := by
  induction as generalizing start with
  | nil => simp [each]
  | cons a as ih =>
    have hboth : Unquotable (both ((check a).under (.item start)) (each check (start + 1) as)) ↔
        Unquotable (check a) ∨ ∃ a ∈ as, Unquotable (check a) := by
      rw [unquotable_both, unquotable_under, ih]
    rw [List.exists_mem_cons_iff, ← hboth, each]
    cases both ((check a).under (.item start)) (each check (start + 1) as) <;> simp

end Schema.Checked

open Checked

/-! ## Integers -/

theorem plainNatural_ne_tooDeep (cs : List Char) : plainNatural cs ≠ .error .tooDeep := by
  grind [plainNatural]

theorem plainInteger_ne_tooDeep (cs : List Char) : plainInteger cs ≠ .error .tooDeep := by
  have hcast (digits : List Char) :
      (do return ((← plainNatural digits) : Int)) ≠ Except.error Complaint.tooDeep := by
    intro h
    rcases bind_eq_error_iff.mp h with h | ⟨_, -, h⟩
    · exact plainNatural_ne_tooDeep digits h
    · cases h
  unfold plainInteger
  split
  · exact map_eq_error_iff.not.mpr (hcast _)
  · exact map_eq_error_iff.not.mpr (hcast _)

theorem integerOfText_ne_tooDeep (cs : List Char) : integerOfText cs ≠ .error .tooDeep := by
  unfold integerOfText
  split
  · split
    · simp
    · cases plainInteger _ <;> simp [Except.mapError]
  · exact plainInteger_ne_tooDeep cs

theorem integerOfScalar_ne_tooDeep (s : Scalar) : integerOfScalar s ≠ .error .tooDeep := by
  cases s with
  | real x =>
    unfold integerOfScalar integerOfReal
    grind
  | text s => exact integerOfText_ne_tooDeep _
  | bytes bs =>
    simp only [integerOfScalar]
    split
    · exact integerOfText_ne_tooDeep _
    · simp
  | _ => simp [integerOfScalar]

section

variable {α : Type} [Layered α] {a v : α} {entries : List (Scalar × α)} {name : String}

theorem naturalOf_ne_tooDeep (a : α) : naturalOf a ≠ .error .tooDeep := by
  unfold naturalOf
  split
  · rename_i s _
    have hs := integerOfScalar_ne_tooDeep s
    split
    · rename_i c hc
      simpa [hc] using hs
    · split <;> simp
  · simp

theorem Goals.not_unquotable_checkGoal (name : String) (entries : List (Scalar × α)) :
    ¬ Unquotable (Goals.checkGoal name entries) := by
  rw [Goals.checkGoal, unquotable_under]
  cases Layer.field? name entries with
  | none => simp
  | some a =>
    have ha := naturalOf_ne_tooDeep a
    cases hc : naturalOf a <;> simp_all

theorem Goals.not_unquotable_check (a : α) : ¬ Unquotable (Goals.check a) := by
  unfold Goals.check
  cases Layered.layer a with
  | map entries =>
    have hboth : ¬ Unquotable (both (checkGoal "size" entries) (checkGoal "speed" entries)) := by
      rw [unquotable_both]
      exact not_or.mpr ⟨not_unquotable_checkGoal _ _, not_unquotable_checkGoal _ _⟩
    dsimp only
    generalize both (checkGoal "size" entries) (checkGoal "speed" entries) = x at hboth ⊢
    cases x with
    | ok => simp
    | error issues => simpa using hboth
  | scalar | list | tuple | set => simp

/-! ## Cells -/

namespace Cell

theorem ofInt_ne_tooDeep (n : Int) : ofInt n ≠ .error .tooDeep := by
  unfold ofInt
  split
  · split <;> simp
  · simp

theorem not_unquotable_checkKind (entries : List (Scalar × α)) :
    ¬ Unquotable (checkKind entries) := by
  unfold checkKind
  split
  · simp
  · split
    · split <;> simp
    · simp
    · simp

theorem not_unquotable_checkValue (entries : List (Scalar × α)) :
    ¬ Unquotable (checkValue entries) := by
  unfold checkValue
  cases Layer.field? "value" entries with
  | none => simp
  | some a =>
    have ha : ofStrict a ≠ .error .tooDeep := by
      unfold ofStrict
      split
      · exact ofInt_ne_tooDeep _
      · simp
    cases hc : ofStrict a <;> simp_all

theorem not_unquotable_check (a : α) : ¬ Unquotable (check a) := by
  unfold check
  cases Layered.layer a with
  | map entries =>
    have hboth : ¬ Unquotable (both ((checkKind entries).under (.field "kind"))
        ((checkValue entries).under (.field "value"))) := by
      rw [unquotable_both, unquotable_under, unquotable_under]
      exact not_or.mpr ⟨not_unquotable_checkKind entries, not_unquotable_checkValue entries⟩
    dsimp only
    generalize both ((checkKind entries).under (.field "kind"))
      ((checkValue entries).under (.field "value")) = x at hboth ⊢
    cases x with
    | ok => simp
    | error issues => simpa using hboth
  | scalar | list | tuple | set => simp

theorem ofData_eq_tooDeep_iff :
    ofData a = .error (.unshown .tooDeep) ↔
      (∀ n, ¬ IsInt a n) ∧ Layered.shown a = .error .tooDeep := by
  unfold ofData IsInt
  split
  · rename_i n hlayer
    cases ofInt n <;> simp [hlayer]
  · rename_i hother
    rw [and_iff_right hother]
    cases Layered.shown a <;> simp

end Cell

/-! ## Test cases -/

def IsMapping (a : α) : Prop := ∃ entries, Layered.layer a = .map entries

/-- The first item of a list that is neither a cell nor a mapping, if it is no integer either. Items
behind it are not looked at. -/
def FirstQuoted (items : List α) (a : α) : Prop :=
  ∃ before after, items = before ++ a :: after ∧
    (∀ b ∈ before, IsMapping b ∨ ∃ c : Cell, IsInt b c.value) ∧ ¬ IsMapping a ∧ ∀ n, ¬ IsInt a n

/-- The check of a test case quotes an item of its input or of its output. -/
def TestCase.Quotes (t a : α) : Prop :=
  ∃ entries name cells items, Layered.layer t = .map entries ∧
    (name = "input" ∨ name = "output") ∧ Layer.field? name entries = some cells ∧
    (Layered.layer cells = .list items ∨ Layered.layer cells = .tuple items) ∧
    FirstQuoted items a

namespace TestCase

theorem exists_convertItem_eq_ok_iff :
    (∃ item, convertItem a = .ok item) ↔ IsMapping a ∨ ∃ c : Cell, IsInt a c.value := by
  unfold convertItem IsMapping
  split
  · rename_i entries hlayer
    simp [hlayer]
  · rename_i hother
    rw [or_iff_right fun ⟨entries, h⟩ => hother entries h]
    simp only [← Cell.ofData_eq_ok_iff]
    cases Cell.ofData a <;> simp

theorem convertItem_eq_tooDeep_iff :
    convertItem a = .error (.unshown .tooDeep) ↔
      ¬ IsMapping a ∧ (∀ n, ¬ IsInt a n) ∧ Layered.shown a = .error .tooDeep := by
  rw [← Cell.ofData_eq_tooDeep_iff]
  unfold convertItem IsMapping
  split
  · rename_i entries hlayer
    simp [hlayer]
  · rename_i hother
    rw [and_iff_right fun ⟨entries, h⟩ => hother entries h]
    cases Cell.ofData a <;> simp

theorem convertItems_eq_tooDeep_iff {items : List α} :
    items.mapM convertItem = .error (.unshown .tooDeep) ↔
      ∃ a, FirstQuoted items a ∧ Layered.shown a = .error .tooDeep := by
  rw [mapM_eq_error_iff]
  simp only [exists_convertItem_eq_ok_iff, convertItem_eq_tooDeep_iff, FirstQuoted]
  constructor
  · rintro ⟨before, a, after, hitems, hbefore, hmapping, hint, hshown⟩
    exact ⟨a, ⟨before, after, hitems, hbefore, hmapping, hint⟩, hshown⟩
  · rintro ⟨a, ⟨before, after, hitems, hbefore, hmapping, hint⟩, hshown⟩
    exact ⟨before, a, after, hitems, hbefore, hmapping, hint, hshown⟩

theorem convertItem_ne_outOfRange_tooDeep (a : α) :
    convertItem a ≠ .error (.outOfRange .tooDeep) := by
  intro h
  unfold convertItem Cell.ofData at h
  grind [Cell.ofInt_ne_tooDeep]

theorem unquotable_convertItems_iff {items : List α} {e : Cell.ConversionError}
    (h : items.mapM convertItem = .error e) :
    Unquotable (.error (conversionIssues e) : Checked (List (Item α))) ↔
      e = .unshown .tooDeep := by
  obtain ⟨b, -, hb⟩ := exists_of_mapM_eq_error h
  have hrange := convertItem_ne_outOfRange_tooDeep b
  rw [unquotable_error]
  cases e with
  | notInteger shown => simp [conversionIssues]
  | unshown reason => cases reason <;> simp [conversionIssues]
  | outOfRange c =>
    have hc : c ≠ .tooDeep := by
      rintro rfl
      exact hrange hb
    simp [conversionIssues, Cell.rangeIssues, hc]

theorem unquotable_convert_iff :
    Unquotable (convert a) ↔
      ∃ items b, (Layered.layer a = .list items ∨ Layered.layer a = .tuple items) ∧
        FirstQuoted items b ∧ Layered.shown b = .error .tooDeep := by
  unfold convert
  cases Layered.layer a with
  | list items =>
    simp only [Layer.list.injEq, reduceCtorEq, or_false, exists_and_left, exists_eq_left',
      ← convertItems_eq_tooDeep_iff]
    cases hmap : items.mapM convertItem with
    | ok converted => simp
    | error e => simpa using unquotable_convertItems_iff hmap
  | tuple items =>
    simp only [Layer.tuple.injEq, reduceCtorEq, false_or, exists_and_left, exists_eq_left',
      ← convertItems_eq_tooDeep_iff]
    cases hmap : items.mapM convertItem with
    | ok converted => simp
    | error e => simpa using unquotable_convertItems_iff hmap
  | set items => simp
  | scalar | map => simp

theorem unquotable_checkCells : Unquotable (checkCells a) ↔ Unquotable (convert a) := by
  have hitem (item : Item α) : ¬ Unquotable item.check := by
    cases item with
    | cell c => exact not_unquotable_ok c
    | unchecked b => exact Cell.not_unquotable_check b
  unfold checkCells
  cases convert a with
  | ok items => simp [unquotable_each, hitem]
  | error issues => simp

theorem unquotable_checkField_iff :
    Unquotable (checkField name entries) ↔
      ∃ cells items b, Layer.field? name entries = some cells ∧
        (Layered.layer cells = .list items ∨ Layered.layer cells = .tuple items) ∧
        FirstQuoted items b ∧ Layered.shown b = .error .tooDeep := by
  rw [checkField, unquotable_under]
  cases Layer.field? name entries with
  | none => simp
  | some cells => simp [unquotable_checkCells, unquotable_convert_iff]

theorem unquotable_check_iff :
    Unquotable (check a) ↔ ∃ b, Quotes a b ∧ Layered.shown b = .error .tooDeep := by
  unfold check Quotes
  cases Layered.layer a with
  | map entries =>
    have hboth : Unquotable (both (checkField "input" entries) (checkField "output" entries)) ↔
        ∃ b, (∃ entries' name cells items, Layer.map entries = .map entries' ∧
          (name = "input" ∨ name = "output") ∧ Layer.field? name entries' = some cells ∧
          (Layered.layer cells = .list items ∨ Layered.layer cells = .tuple items) ∧
          FirstQuoted items b) ∧ Layered.shown b = .error .tooDeep := by
      rw [unquotable_both, unquotable_checkField_iff, unquotable_checkField_iff]
      constructor
      · rintro (⟨cells, items, b, hcells, hitems, hb, hshown⟩ |
            ⟨cells, items, b, hcells, hitems, hb, hshown⟩)
        · exact ⟨b, ⟨entries, "input", cells, items, rfl, .inl rfl, hcells, hitems, hb⟩, hshown⟩
        · exact ⟨b, ⟨entries, "output", cells, items, rfl, .inr rfl, hcells, hitems, hb⟩, hshown⟩
      · rintro ⟨b, ⟨_, name, cells, items, ⟨rfl⟩, rfl | rfl, hcells, hitems, hb⟩, hshown⟩
        · exact .inl ⟨cells, items, b, hcells, hitems, hb, hshown⟩
        · exact .inr ⟨cells, items, b, hcells, hitems, hb, hshown⟩
    rw [← hboth]
    dsimp only
    generalize both (checkField "input" entries) (checkField "output" entries) = x
    cases x <;> simp
  | scalar | list | tuple | set => simp

end TestCase

theorem IsCase.not_quotes {numbers : List Int × List Int} (h : IsCase a numbers) (b : α) :
    ¬ TestCase.Quotes a b := by
  obtain ⟨entries, input, output, ha, hi, hinput, ho, houtput⟩ := h
  have hints {cells : α} {ns : List Int} (hcells : IsIntList cells ns) {items : List α}
      (hitems : Layered.layer cells = .list items ∨ Layered.layer cells = .tuple items) :
      ¬ FirstQuoted items b := by
    obtain ⟨items', hlayer, hall⟩ := hcells
    rintro ⟨before, after, rfl, -, -, hint⟩
    rw [hlayer] at hitems
    obtain rfl : items' = before ++ b :: after := by simpa using hitems
    obtain ⟨n, -, hn⟩ := exists_of_forall₂ hall (show b ∈ before ++ b :: after by simp)
    exact hint n hn
  rintro ⟨entries', name, cells, items, ha', hname, hcells, hitems, hquoted⟩
  obtain rfl : entries = entries' := by simpa [ha] using ha'
  rcases hname with rfl | rfl
  · obtain rfl : input = cells := by simpa [hi] using hcells
    exact hints hinput hitems hquoted
  · obtain rfl : output = cells := by simpa [ho] using hcells
    exact hints houtput hitems hquoted

/-! ## Levels -/

namespace Level

/-- Reading a level quotes an item of one of its tests. -/
def Quotes (v a : α) : Prop :=
  ∃ entries goals tests items t, Layered.layer v = .map entries ∧
    Layer.field? "goals" entries = some goals ∧ Layer.field? "tests" entries = some tests ∧
    Layered.layer tests = .list items ∧ t ∈ items ∧ TestCase.Quotes t a

theorem checked_eq_error_iff {β : Type} {title : String} {x : Checked β} {f : LevelFailure} :
    checked title x = .error f ↔
      (Unquotable x ∧ f = .scalar .unquotable) ∨
        ¬ Unquotable x ∧ ∃ issues, x = .error issues ∧ f = .level (.invalid title issues) := by
  cases x with
  | ok b => simp [checked]
  | error issues =>
    by_cases hdeep : ∃ i ∈ issues, i.complaint = .tooDeep
    · simpa [checked, hdeep] using eq_comm
    · simpa [checked, hdeep] using eq_comm

theorem checked_eq_error {β : Type} {title : String} {x : Checked β} {f : LevelFailure}
    (hx : ¬ Unquotable x) (h : checked title x = .error f) :
    ∃ issues, f = .level (.invalid title issues) := by
  obtain ⟨-, issues, -, hf⟩ := (checked_eq_error_iff.mp h).resolve_left fun hdeep => hx hdeep.1
  exact ⟨issues, hf⟩

theorem unquotable_checkParts {goals : Checked Goals} {tests : Checked (List TestCase)} :
    Unquotable (checkParts goals tests) ↔ Unquotable goals ∨ Unquotable tests := by
  have hboth : Unquotable (both (goals.under (.field "goals")) (tests.under (.field "tests"))) ↔
      Unquotable goals ∨ Unquotable tests := by
    rw [unquotable_both, unquotable_under, unquotable_under]
  rw [checkParts, ← hboth]
  generalize both (goals.under (.field "goals")) (tests.under (.field "tests")) = x
  cases x <;> simp

theorem testsOf_eq_ok {items : List α} (h : testsOf entries = .ok items) {t : α} (ht : t ∈ items) :
    ∃ tests, Layer.field? "tests" entries = some tests ∧ Layered.layer tests = .list items := by
  unfold testsOf at h
  cases hfield : Layer.field? "tests" entries with
  | none =>
    rw [hfield] at h
    cases h
    cases ht
  | some tests =>
    rw [hfield] at h
    dsimp only at h
    split at h
    · rename_i hlayer
      cases h
      exact ⟨tests, rfl, hlayer⟩
    · split at h
      · cases h
        cases ht
      · cases h

/-- The one fault of a value that is not the level's. -/
theorem ofData_eq_scalar_iff {e : ScalarError} :
    ofData v = .error (.scalar e) ↔
      e = .unquotable ∧ ∃ a, Quotes v a ∧ Layered.shown a = .error .tooDeep := by
  constructor
  · intro h
    unfold ofData at h
    split at h
    · rename_i entries hlayer
      split at h
      · cases h
      · rename_i goals hgoals
        split at h
        · rename_i f hf
          cases h
          unfold testsOf at hf
          grind
        · rename_i items hitems
          -- the goals are integers and never quoted, so the fault is in a test case
          obtain ⟨hdeep, he⟩ : Unquotable _ ∧ _ :=
            (checked_eq_error_iff.mp h).resolve_right fun ⟨_, _, _, he⟩ => by cases he
          cases he
          rw [unquotable_checkParts, unquotable_each] at hdeep
          obtain ⟨t, ht, hquote⟩ := hdeep.resolve_left (Goals.not_unquotable_check goals)
          obtain ⟨tests, htests, hlist⟩ := testsOf_eq_ok hitems ht
          obtain ⟨a, ha, hshown⟩ := TestCase.unquotable_check_iff.mp hquote
          exact ⟨rfl, a, ⟨entries, goals, tests, items, t, hlayer, hgoals, htests, hlist, ht, ha⟩,
            hshown⟩
    · cases h
  · rintro ⟨rfl, a, hquotes, hshown⟩
    obtain ⟨entries, goals, tests, items, t, hlayer, hgoals, htests, hlist, ht, ha⟩ := hquotes
    simp only [ofData, testsOf, hlayer, hgoals, htests, hlist]
    refine checked_eq_error_iff.mpr (.inl ⟨?_, rfl⟩)
    rw [unquotable_checkParts, unquotable_each]
    exact .inr ⟨t, ht, TestCase.unquotable_check_iff.mpr ⟨a, ha, hshown⟩⟩

end Level

end

/-! ## Trees -/

theorem Data.shown_ne_tooDeep (d : Data) : Layered.shown d ≠ .error .tooDeep := by
  change Layer.written d.shown ≠ .error .tooDeep
  cases d.shown <;> simp [Layer.written]

theorem TestCase.not_unquotable_check (d : Data) : ¬ Unquotable (TestCase.check d) := by
  rw [unquotable_check_iff]
  rintro ⟨b, -, hb⟩
  exact b.shown_ne_tooDeep hb

/-! ## Documents -/

/-- The values that are parts of a layer. The keys of a mapping are none. -/
def Layer.parts {α : Type} : Layer α → List α
  | .scalar _ => []
  | .list items => items
  | .tuple items => items
  | .set items => items
  | .map entries => entries.map (·.2)

theorem Layer.exists_part_of_shownWith {α : Type} {part : α → Except Unshown String} {l : Layer α}
    (h : l.shownWith part = .error .tooDeep) : ∃ a ∈ l.parts, part a = .error .tooDeep := by
  -- the brackets around the items make no difference to what fails
  have hitems {items : List α} {text : List String → String}
      (h : (items.mapM part).map text = .error .tooDeep) :
      ∃ a ∈ items, part a = .error .tooDeep :=
    exists_of_mapM_eq_error (map_eq_error_iff.mp h)
  have hwritten (s : Option String) : Layer.written s ≠ .error .tooDeep := by
    cases s <;> simp [Layer.written]
  cases l with
  | scalar s => exact absurd h (hwritten _)
  | list items => exact hitems h
  | tuple items => exact hitems h
  | set items => exact hitems h
  | map entries =>
    obtain ⟨entry, hentry, hshown⟩ : ∃ e ∈ entries, entryShown part e = .error .tooDeep :=
      exists_of_mapM_eq_error (map_eq_error_iff.mp h)
    refine ⟨entry.2, List.mem_map_of_mem hentry, ?_⟩
    rcases bind_eq_error_iff.mp hshown with hkey | ⟨_, -, hrest⟩
    · exact absurd hkey (hwritten _)
    · rcases bind_eq_error_iff.mp hrest with hvalue | ⟨_, -, hok⟩
      · exact hvalue
      · cases hok

namespace Yaml

variable {places : Places}

/-- From a place one can go inwards so many steps, and does not come back to where one was before
the last of them. -/
def Places.IsNested (places : Places) (i n : Nat) : Prop :=
  ∃ inner : List Nat, inner.length = n ∧
    (i :: inner).IsChain (fun a b => b ∈ (places.layer a).parts) ∧ (i :: inner).dropLast.Nodup

/-- The places around are not met again either, which the induction needs. -/
theorem Places.exists_chain_of_shownInside {room i : Nat} {around : List Nat}
    (h : places.shownInside room around i = .error .tooDeep) :
    ∃ inner : List Nat, inner.length = room ∧
      (i :: inner).IsChain (fun a b => b ∈ (places.layer a).parts) ∧
      (i :: inner).dropLast.Nodup ∧ ∀ j ∈ (i :: inner).dropLast, j ∉ around := by
  induction room generalizing around i with
  | zero => exact ⟨[], rfl, .singleton i, by simp, by simp⟩
  | succ room ih =>
    rw [shownInside] at h
    split at h
    · cases h
    · rename_i haround
      -- the part that fails is shown inside this place, so this place is new to all that follow
      obtain ⟨j, hj, hshown⟩ := Layer.exists_part_of_shownWith h
      obtain ⟨inner, hlength, hchain, hnodup, hnew⟩ := ih hshown
      refine ⟨j :: inner, by rw [List.length_cons, hlength],
        .cons_cons hj hchain, ?_, ?_⟩
      · rw [List.dropLast_cons_cons]
        exact List.nodup_cons.mpr ⟨fun hi => hnew i hi List.mem_cons_self, hnodup⟩
      · rw [List.dropLast_cons_cons]
        refine List.forall_mem_cons.mpr ⟨by simpa using haround, fun k hk hin => ?_⟩
        exact hnew k hk (List.mem_cons_of_mem i hin)

theorem Value.isNested_of_shown [Reach] {v : Value} (h : Layered.shown v = .error .tooDeep) :
    v.places.IsNested v.place Reach.quotes := by
  obtain ⟨inner, hlength, hchain, hnodup, -⟩ := Places.exists_chain_of_shownInside h
  exact ⟨inner, hlength, hchain, hnodup⟩

end Yaml

end Mailroom
