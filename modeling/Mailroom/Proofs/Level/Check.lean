import Mailroom.Level.Check
import Mailroom.Proofs.Data.Failing

/-!
# What the checks of a level take

A check looks at a value from the outside in. `TakenAsGoals`, `TakenAsTest` and `TakenAsLevel` say
what it has to see there for the result that it gives, so they hold of trees and of places in a
document alike: fields that may be left out, goals that may be written in several ways, and cells
that are plain or tagged. Each check gives a result exactly where its relation holds, and no other
result (`Level.check_eq_ok_iff`).

Both formats of levels hand the checks the plainest data there is, mappings of integers and of lists
of integers. `IsInt`, `IsIntList`, `IsCase` and `IsGoals` describe such data. A check of it fails
for one reason only, which is that a number is out of range: a negative goal, or a number that no
cell holds.
-/

set_option autoImplicit false

namespace Mailroom

open Schema

/-! ## Checks of parts -/

namespace Schema.Checked

variable {α β : Type}

theorem under_eq_ok_iff {place : Place} {x : Checked α} {a : α} :
    x.under place = .ok a ↔ x = .ok a := by
  cases x <;> simp [under]

theorem both_eq_ok_iff {x : Checked α} {y : Checked β} {p : α × β} :
    both x y = .ok p ↔ x = .ok p.1 ∧ y = .ok p.2 := by
  cases x <;> cases y <;> simp [both, Prod.ext_iff]

theorem each_eq_ok_iff {check : α → Checked β} {start : Nat} {as : List α} {bs : List β} :
    each check start as = .ok bs ↔ List.Forall₂ (fun a b => check a = .ok b) as bs := by
  induction as generalizing start bs with
  | nil =>
    simp only [each, Except.ok.injEq, List.forall₂_nil_left_iff]
    exact eq_comm
  | cons a as ih =>
    rw [each, List.forall₂_cons_left_iff]
    constructor
    · intro h
      split at h
      · rename_i b bs' hboth
        obtain ⟨ha, has⟩ := both_eq_ok_iff.mp hboth
        exact ⟨b, bs', under_eq_ok_iff.mp ha, ih.mp has, (Except.ok.inj h).symm⟩
      · cases h
    · rintro ⟨b, bs', ha, has, rfl⟩
      rw [both_eq_ok_iff (p := (b, bs')).mpr ⟨under_eq_ok_iff.mpr ha, ih.mpr has⟩]

end Schema.Checked

theorem Cell.ofInt_eq_ok_iff {n : Int} {c : Cell} : Cell.ofInt n = .ok c ↔ c.value = n := by
  unfold Cell.ofInt
  constructor
  · intro h
    split at h
    · split at h
      · cases h
        rfl
      · cases h
    · cases h
  · rintro rfl
    rw [dif_pos c.inRange.1, dif_pos c.inRange.2]

def TestCase.numbers (t : TestCase) : List Int × List Int :=
  (t.input.map Cell.value, t.output.map Cell.value)

theorem exists_map_value_iff {ns : List Int} :
    (∃ cs : List Cell, cs.map Cell.value = ns) ↔ ∀ n ∈ ns, -32768 ≤ n ∧ n ≤ 32767 := by
  constructor
  · rintro ⟨cs, rfl⟩ n hn
    obtain ⟨c, -, rfl⟩ := List.mem_map.mp hn
    exact c.inRange
  · intro h
    refine ⟨ns.pmap Cell.mk h, ?_⟩
    rw [List.map_pmap]
    simp

theorem TestCase.exists_numbers_iff {numbers : List Int × List Int} :
    (∃ t : TestCase, t.numbers = numbers) ↔
      ∀ n ∈ numbers.1 ++ numbers.2, -32768 ≤ n ∧ n ≤ 32767 := by
  rw [List.forall_mem_append, ← exists_map_value_iff, ← exists_map_value_iff]
  constructor
  · rintro ⟨t, rfl⟩
    exact ⟨⟨t.input, rfl⟩, ⟨t.output, rfl⟩⟩
  · rintro ⟨⟨input, hi⟩, ⟨output, ho⟩⟩
    exact ⟨⟨input, output⟩, Prod.ext hi ho⟩

/-! ## What is taken -/

section

variable {α : Type} [Layered α] {a : α} {entries : List (Scalar × α)} {name : String}

def IsInt (a : α) (n : Int) : Prop := Layered.layer a = .scalar (.int n)

/-- The value is taken as this integer where one may be written in several ways. -/
def TakenAsInt (a : α) (n : Int) : Prop :=
  ∃ s, Layered.layer a = .scalar s ∧ integerOfScalar s = .ok n

def TakenAsGoals (a : α) (g : Goals) : Prop :=
  ∃ entries, Layered.layer a = .map entries ∧
    (∃ s, Layer.field? "size" entries = some s ∧ TakenAsInt s g.size) ∧
    ∃ v, Layer.field? "speed" entries = some v ∧ TakenAsInt v g.speed

/-- The value is a mapping with this integer, and with the tag of cells or none. -/
def IsTagged (a : α) (n : Int) : Prop :=
  ∃ entries v, Layered.layer a = .map entries ∧
    (∀ k, Layer.field? "kind" entries = some k → Layered.layer k = .scalar (.text Cell.kind)) ∧
    Layer.field? "value" entries = some v ∧ IsInt v n

def TakenAsCell (a : α) (c : Cell) : Prop := IsInt a c.value ∨ IsTagged a c.value

/-- In a list or a tuple each item is a cell in one of the two forms. In a set it has to be tagged,
because sets are not converted. -/
def TakenAsCells (a : α) (cs : List Cell) : Prop :=
  match Layered.layer a with
  | .list items | .tuple items => List.Forall₂ TakenAsCell items cs
  | .set items => List.Forall₂ (fun x c => IsTagged x c.value) items cs
  | .scalar _ | .map _ => False

/-- The field holds these cells. One that is left out holds none. -/
def FieldCells (name : String) (entries : List (Scalar × α)) (cs : List Cell) : Prop :=
  (Layer.field? name entries = none ∧ cs = []) ∨
    ∃ a, Layer.field? name entries = some a ∧ TakenAsCells a cs

def TakenAsTest (a : α) (t : TestCase) : Prop :=
  ∃ entries, Layered.layer a = .map entries ∧ FieldCells "input" entries t.input ∧
    FieldCells "output" entries t.output

def TakenAsLevel (a : α) (level : Level) : Prop :=
  ∃ entries, Layered.layer a = .map entries ∧
    (∃ g, Layer.field? "goals" entries = some g ∧ TakenAsGoals g level.goals) ∧
    ((Layer.field? "tests" entries = none ∧ level.tests = []) ∨
      ∃ t items, Layer.field? "tests" entries = some t ∧ (Layered.layer t).items? = some items ∧
        List.Forall₂ TakenAsTest items level.tests)

/-! ### Goals -/

theorem naturalOf_eq_ok_iff {m : Nat} : naturalOf a = .ok m ↔ TakenAsInt a m := by
  unfold naturalOf TakenAsInt
  cases Layered.layer a with
  | scalar s =>
    cases hs : integerOfScalar s with
    | error c => simp [hs]
    | ok n =>
      by_cases hneg : n < 0
      · simp [hs, hneg]
        omega
      · simp [hs, hneg]
        omega
  | list | tuple | set | map => simp

theorem Goals.checkGoal_eq_ok_iff {m : Nat} :
    Goals.checkGoal name entries = .ok m ↔
      ∃ a, Layer.field? name entries = some a ∧ TakenAsInt a m := by
  rw [Goals.checkGoal, Checked.under_eq_ok_iff]
  cases Layer.field? name entries with
  | none => simp [complain]
  | some a =>
    simp only [Option.some.injEq, exists_eq_left', ← naturalOf_eq_ok_iff]
    cases naturalOf a <;> simp [complain]

theorem Goals.check_eq_ok_iff {g : Goals} : Goals.check a = .ok g ↔ TakenAsGoals a g := by
  unfold Goals.check TakenAsGoals
  simp only [← Goals.checkGoal_eq_ok_iff]
  cases Layered.layer a with
  | map entries =>
    simp only [Layer.map.injEq, exists_eq_left']
    rw [← Checked.both_eq_ok_iff (p := (g.size, g.speed))]
    cases Checked.both (checkGoal "size" entries) (checkGoal "speed" entries) with
    | ok p =>
      cases g
      simp [Prod.ext_iff]
    | error issues => simp
  | scalar | list | tuple | set => simp [complain]

/-! ### Cells -/

namespace Cell

theorem ofStrict_eq_ok_iff {c : Cell} : ofStrict a = .ok c ↔ IsInt a c.value := by
  unfold ofStrict IsInt
  split
  · rename_i n hlayer
    simp only [ofInt_eq_ok_iff, hlayer, Layer.scalar.injEq, Scalar.int.injEq]
    exact eq_comm
  · rename_i hother
    simp only [reduceCtorEq, false_iff]
    exact hother c.value

theorem ofData_eq_ok_iff {c : Cell} : ofData a = .ok c ↔ IsInt a c.value := by
  rw [← ofStrict_eq_ok_iff]
  unfold ofData ofStrict
  split
  · rename_i n _
    cases ofInt n <;> simp
  · cases Layered.shown a <;> simp

theorem checkKind_eq_ok_iff :
    checkKind entries = .ok () ↔
      ∀ k, Layer.field? "kind" entries = some k → Layered.layer k = .scalar (.text kind) := by
  unfold checkKind
  cases Layer.field? "kind" entries with
  | none => simp
  | some k =>
    simp only [Option.some.injEq, forall_eq']
    split
    · rename_i s hlayer
      by_cases hs : s = kind
      · simp [hlayer, hs]
      · simp [hlayer, hs, complain]
    · rename_i hlayer
      simp [hlayer, complain]
    · rename_i hother _
      simp only [complain, reduceCtorEq, false_iff]
      exact hother kind

theorem checkValue_eq_ok_iff {c : Cell} :
    checkValue entries = .ok c ↔
      ∃ v, Layer.field? "value" entries = some v ∧ IsInt v c.value := by
  unfold checkValue
  cases Layer.field? "value" entries with
  | none => simp [complain]
  | some v =>
    simp only [Option.some.injEq, exists_eq_left', ← ofStrict_eq_ok_iff]
    cases ofStrict v <;> simp [complain]

theorem check_eq_ok_iff {c : Cell} : check a = .ok c ↔ IsTagged a c.value := by
  have htagged : IsTagged a c.value ↔ ∃ entries, Layered.layer a = .map entries ∧
      checkKind entries = .ok () ∧ checkValue entries = .ok c := by
    simp only [IsTagged, checkKind_eq_ok_iff, checkValue_eq_ok_iff, exists_and_left]
  rw [htagged]
  unfold check
  cases Layered.layer a with
  | map entries =>
    simp only [Layer.map.injEq, exists_eq_left']
    have hboth : Checked.both ((checkKind entries).under (.field "kind"))
        ((checkValue entries).under (.field "value")) = .ok ((), c) ↔
          checkKind entries = .ok () ∧ checkValue entries = .ok c := by
      rw [Checked.both_eq_ok_iff, Checked.under_eq_ok_iff, Checked.under_eq_ok_iff]
    rw [← hboth]
    cases Checked.both ((checkKind entries).under (.field "kind"))
      ((checkValue entries).under (.field "value")) <;> simp [Prod.ext_iff]
  | scalar | list | tuple | set => simp [complain]

end Cell

/-! ### Test cases -/

namespace TestCase

theorem exists_convertItem_iff {c : Cell} :
    (∃ item, convertItem a = .ok item ∧ item.check = .ok c) ↔ TakenAsCell a c := by
  unfold convertItem TakenAsCell
  split
  · rename_i entries hlayer
    have hplain : ¬ IsInt a c.value := by simp [IsInt, hlayer]
    simp [hplain, Item.check, Cell.check_eq_ok_iff]
  · rename_i hother
    have htagged : ¬ IsTagged a c.value := by
      rintro ⟨entries, -, hlayer, -⟩
      exact hother entries hlayer
    rw [or_iff_left htagged, ← Cell.ofData_eq_ok_iff]
    cases Cell.ofData a <;> simp [Item.check]

theorem checkItems_eq_ok_iff {items : List α} {cs : List Cell} :
    (∃ converted, items.mapM convertItem = .ok converted ∧
      Checked.each Item.check 0 converted = .ok cs) ↔ List.Forall₂ TakenAsCell items cs := by
  simp only [mapM_eq_ok_iff, Checked.each_eq_ok_iff, exists_forall₂_iff, exists_convertItem_iff]

theorem checkCells_eq_ok_iff {cs : List Cell} : checkCells a = .ok cs ↔ TakenAsCells a cs := by
  unfold checkCells convert TakenAsCells
  cases Layered.layer a with
  | list items =>
    simp only [← checkItems_eq_ok_iff]
    cases items.mapM convertItem <;> simp
  | tuple items =>
    simp only [← checkItems_eq_ok_iff]
    cases items.mapM convertItem <;> simp
  | set items =>
    simp only [Checked.each_eq_ok_iff, List.forall₂_map_left_iff]
    simp only [Item.check, Cell.check_eq_ok_iff]
  | scalar | map => simp [complain]

theorem checkField_eq_ok_iff {cs : List Cell} :
    checkField name entries = .ok cs ↔ FieldCells name entries cs := by
  rw [checkField, Checked.under_eq_ok_iff, FieldCells]
  cases Layer.field? name entries with
  | none => simp [eq_comm]
  | some a => simp [checkCells_eq_ok_iff]

theorem check_eq_ok_iff {t : TestCase} : check a = .ok t ↔ TakenAsTest a t := by
  unfold check TakenAsTest
  simp only [← checkField_eq_ok_iff]
  cases Layered.layer a with
  | map entries =>
    simp only [Layer.map.injEq, exists_eq_left']
    rw [← Checked.both_eq_ok_iff (p := (t.input, t.output))]
    cases Checked.both (checkField "input" entries) (checkField "output" entries) with
    | ok p =>
      cases t
      simp [Prod.ext_iff]
    | error issues => simp
  | scalar | list | tuple | set => simp [complain]

end TestCase

/-! ### Levels -/

namespace Level

variable {level : Level}

theorem checkParts_eq_ok_iff {goals : Checked Goals} {tests : Checked (List TestCase)} :
    checkParts goals tests = .ok level ↔ goals = .ok level.goals ∧ tests = .ok level.tests := by
  unfold checkParts
  constructor
  · intro h
    split at h
    · rename_i hboth
      cases h
      obtain ⟨hgoals, htests⟩ := Checked.both_eq_ok_iff.mp hboth
      exact ⟨Checked.under_eq_ok_iff.mp hgoals, Checked.under_eq_ok_iff.mp htests⟩
    · cases h
  · rintro ⟨rfl, rfl⟩
    rfl

theorem checkGoals_eq_ok_iff {g : Goals} :
    checkGoals entries = .ok g ↔
      ∃ b, Layer.field? "goals" entries = some b ∧ TakenAsGoals b g := by
  unfold checkGoals
  cases Layer.field? "goals" entries with
  | none => simp [complain]
  | some b => simp [Goals.check_eq_ok_iff]

theorem checkTests_eq_ok_iff {tests : List TestCase} :
    checkTests entries = .ok tests ↔
      (Layer.field? "tests" entries = none ∧ tests = []) ∨
        ∃ t items, Layer.field? "tests" entries = some t ∧
          (Layered.layer t).items? = some items ∧ List.Forall₂ TakenAsTest items tests := by
  unfold checkTests
  cases Layer.field? "tests" entries with
  | none => simp [eq_comm]
  | some t =>
    simp only [reduceCtorEq, false_and, false_or, Option.some.injEq, exists_and_left,
      exists_eq_left']
    cases (Layered.layer t).items? with
    | none => simp [complain]
    | some items => simp [Checked.each_eq_ok_iff, TestCase.check_eq_ok_iff]

/-- The check of a level takes what the relation says, and nothing else. -/
theorem check_eq_ok_iff : check a = .ok level ↔ TakenAsLevel a level := by
  unfold check TakenAsLevel
  cases Layered.layer a with
  | map entries =>
    simp only [Layer.map.injEq, exists_eq_left']
    rw [checkParts_eq_ok_iff, checkGoals_eq_ok_iff, checkTests_eq_ok_iff]
  | scalar | list | tuple | set => simp [complain]

end Level

/-! ## Plain data -/

def IsIntList (a : α) (ns : List Int) : Prop :=
  ∃ items, Layered.layer a = .list items ∧ List.Forall₂ IsInt items ns

def IsCase (a : α) (numbers : List Int × List Int) : Prop :=
  ∃ entries input output, Layered.layer a = .map entries ∧
    Layer.field? "input" entries = some input ∧ IsIntList input numbers.1 ∧
    Layer.field? "output" entries = some output ∧ IsIntList output numbers.2

def IsGoals (a : α) (size speed : Int) : Prop :=
  ∃ entries s v, Layered.layer a = .map entries ∧
    Layer.field? "size" entries = some s ∧ IsInt s size ∧
    Layer.field? "speed" entries = some v ∧ IsInt v speed

theorem IsInt.takenAsInt_iff {m n : Int} (h : IsInt a n) : TakenAsInt a m ↔ m = n := by
  have hlayer : Layered.layer a = .scalar (.int n) := h
  simp [TakenAsInt, hlayer, integerOfScalar, eq_comm]

theorem IsGoals.check_eq_ok_iff {size speed : Int} {g : Goals} (h : IsGoals a size speed) :
    Goals.check a = .ok g ↔ (g.size : Int) = size ∧ (g.speed : Int) = speed := by
  obtain ⟨entries, s, v, ha, hs, hsize, hv, hspeed⟩ := h
  rw [Goals.check_eq_ok_iff]
  simp [TakenAsGoals, ha, hs, hv, hsize.takenAsInt_iff, hspeed.takenAsInt_iff]

theorem IsInt.takenAsCell_iff {n : Int} {c : Cell} (h : IsInt a n) :
    TakenAsCell a c ↔ c.value = n := by
  have hlayer : Layered.layer a = .scalar (.int n) := h
  simp [TakenAsCell, IsInt, IsTagged, hlayer, eq_comm]

theorem IsIntList.takenAsCells_iff {ns : List Int} {cs : List Cell} (h : IsIntList a ns) :
    TakenAsCells a cs ↔ cs.map Cell.value = ns := by
  obtain ⟨items, ha, hitems⟩ := h
  simp only [TakenAsCells, ha]
  clear ha
  induction hitems generalizing cs with
  | nil => simp
  | cons hitem _ ih =>
    cases cs with
    | nil => simp
    | cons c cs => simp [hitem.takenAsCell_iff, ih]

theorem IsCase.check_eq_ok_iff {numbers : List Int × List Int} {t : TestCase}
    (h : IsCase a numbers) : TestCase.check a = .ok t ↔ t.numbers = numbers := by
  obtain ⟨entries, input, output, ha, hi, hinput, ho, houtput⟩ := h
  rw [TestCase.check_eq_ok_iff, TestCase.numbers, Prod.ext_iff]
  simp [TakenAsTest, FieldCells, ha, hi, ho, hinput.takenAsCells_iff, houtput.takenAsCells_iff]

theorem checkCases_iff {ds : List α} {cases : List (List Int × List Int)} {tests : List TestCase}
    (h : List.Forall₂ IsCase ds cases) :
    List.Forall₂ (fun d t => TestCase.check d = .ok t) ds tests ↔
      tests.map TestCase.numbers = cases := by
  induction h generalizing tests with
  | nil => simp
  | cons hd _ ih =>
    rw [List.forall₂_cons_left_iff]
    simp only [hd.check_eq_ok_iff, ih, List.map_eq_cons_iff]
    constructor
    · rintro ⟨t, ts, ht, hts, rfl⟩
      exact ⟨t, ts, rfl, ht, hts⟩
    · rintro ⟨t, ts, rfl, ht, hts⟩
      exact ⟨t, ts, ht, hts, rfl⟩

end

end Mailroom
