import Mailroom.Level.Yaml
import Mailroom.Proofs.Level.Faults
import Mailroom.Proofs.Program.Print
import Mailroom.Proofs.Text.Decimal

/-!
# One level in two formats

Both formats come down to numbers: two goals, and two lists for each test. A text whose lines write
them (`describes_written`) and a document that holds them (`IsLevel`) are read as the level of these
numbers. There is none if a number of the tests is out of range, and then both readers refuse what
they have read, although each of them could read it.
-/

set_option autoImplicit false

namespace Mailroom.Level

open Text Schema

/-! ## The level of some numbers -/

/-- The level has these goals, and these numbers in its tests. -/
def Holds (level : Level) (size speed : Nat) (cases : List (List Int × List Int)) : Prop :=
  level.goals = ⟨size, speed⟩ ∧ level.tests.map TestCase.numbers = cases

/-- What was read does not make a level. -/
def Refused (r : Except LevelFailure Level) : Prop :=
  ∃ e, r = .error (.level e) ∧ e.message = "invalid level"

theorem exists_holds_iff {size speed : Nat} {cases : List (List Int × List Int)} :
    (∃ level, Holds level size speed cases) ↔ InRange cases := by
  rw [← exists_tests_iff]
  constructor
  · rintro ⟨level, -, htests⟩
    exact ⟨level.tests, htests⟩
  · rintro ⟨tests, htests⟩
    exact ⟨⟨⟨size, speed⟩, tests⟩, rfl, htests⟩

theorem holds_iff {level : Level} {size speed : Nat} {cases : List (List Int × List Int)} :
    Holds level size speed cases ↔ (level.goals.size : Int) = size ∧
      (level.goals.speed : Int) = speed ∧ level.tests.map TestCase.numbers = cases := by
  obtain ⟨⟨a, b⟩, tests⟩ := level
  simp [Holds, and_assoc]

/-- A reader that finds the level of these numbers if there is one, and fails for nothing else than
what they are. -/
theorem reads_or_refuses {size speed : Nat} {cases : List (List Int × List Int)}
    {r : Except LevelFailure Level} (hok : ∀ level, r = .ok level ↔ Holds level size speed cases)
    (herror : ∀ f, r = .error f → ∃ title issues, f = .level (.invalid title issues)) :
    (∀ level, Holds level size speed cases → r = .ok level) ∧ (¬ InRange cases → Refused r) := by
  refine ⟨fun level => (hok level).mpr, fun hrange => ?_⟩
  cases hr : r with
  | ok level => exact absurd (exists_holds_iff.mp ⟨level, (hok level).mp hr⟩) hrange
  | error f =>
    obtain ⟨title, issues, rfl⟩ := herror f hr
    exact ⟨_, rfl, rfl⟩

/-! ## As text -/

def writtenRow (ns : List Int) : String :=
  "[ " ++ String.join (ns.map fun n => toString n ++ " ") ++ "]"

def writtenCase (c : List Int × List Int) : String := writtenRow c.1 ++ " -> " ++ writtenRow c.2

def writtenLines (size speed : Nat) (cases : List (List Int × List Int)) : List String :=
  "goals:" :: ("size = " ++ toString size) :: ("speed = " ++ toString speed) :: "tests:" ::
    cases.map writtenCase

def writtenSections (size speed : Nat) (cases : List (List Int × List Int)) : List Section :=
  [⟨"goals", [.setting "size" size, .setting "speed" speed]⟩,
    ⟨"tests", cases.map fun c => .case c.1 c.2⟩]

/-- The numbers have at most 4300 digits. -/
def Short (cases : List (List Int × List Int)) : Prop :=
  ∀ c ∈ cases, ∀ n ∈ c.1 ++ c.2, n.natAbs < 10 ^ 4300

theorem row_written {ns : List Int} (h : ∀ n ∈ ns, n.natAbs < 10 ^ 4300) :
    Row (' ' :: (String.join (ns.map fun n => toString n ++ " ")).toList) ns := by
  have hspace : ∀ c ∈ [' '], isBlank c = true := isBlank_of_mem_space
  induction ns with
  | nil => exact .done hspace
  | cons n ns ih =>
    have hn := numeral_toString (h n (by simp))
    have hrest := ih fun m hm => h m (by simp [hm])
    have hrow := Row.next hspace hn (by simpa using hspace ' ' (by simp)) hrest
    simpa using hrow

theorem mem_written {ns : List Int} {c : Char}
    (hc : c ∈ (" " ++ String.join (ns.map fun n => toString n ++ " ")).toList) :
    c.isDigit = true ∨ c = '-' ∨ c = ' ' := by
  simp only [String.toList_append, String.toList_join, List.mem_append, List.mem_flatMap,
    List.mem_map] at hc
  rcases hc with hspace | ⟨_, ⟨n, -, rfl⟩, hc⟩
  · exact Or.inr (Or.inr (by simpa using hspace))
  · rw [String.toList_append, List.mem_append] at hc
    rcases hc with hc | hspace
    · exact (mem_toString_int hc).imp_right Or.inl
    · exact Or.inr (Or.inr (by simpa using hspace))

theorem insideBrackets_written {ns : List Int} {c : Char}
    (hc : c ∈ (" " ++ String.join (ns.map fun n => toString n ++ " ")).toList) :
    insideBrackets c = true := by
  simp only [insideBrackets, Bool.and_eq_true, bne_iff_ne, ne_eq]
  constructor
  all_goals
    rintro rfl
    rcases mem_written hc with hdigit | hsign | hspace
    · cases hdigit
    · cases hsign
    · cases hspace

theorem says_setting_written (key : String) {n : Nat} (hk : IsName key) (hn : n < 10 ^ 4300) :
    Says (key ++ " = " ++ toString n) (.statement (.setting key n)) := by
  have hdigits : ∀ c ∈ (toString n).toList, isDigit c = true := by
    intro c hc
    exact isDigit_of_ascii (isDigit_of_mem_toString hc)
  have hsays := @Says.setting key " " " " (toString n) n hk isBlank_of_mem_space
    isBlank_of_mem_space hdigits (numeral_toString_nat hn)
  simpa [String.append_assoc] using hsays

theorem says_writtenCase {c : List Int × List Int}
    (h : ∀ n ∈ c.1 ++ c.2, n.natAbs < 10 ^ 4300) :
    Says (writtenCase c) (.statement (.case c.1 c.2)) := by
  let inner (ns : List Int) : String := " " ++ String.join (ns.map fun n => toString n ++ " ")
  have hrow : ∀ ns : List Int, (∀ n ∈ ns, n.natAbs < 10 ^ 4300) → Row (inner ns).toList ns := by
    intro ns hns
    simpa [inner] using row_written hns
  have hline : writtenCase c =
      "[" ++ inner c.1 ++ "]" ++ " " ++ "->" ++ " " ++ "[" ++ inner c.2 ++ "]" := by
    rw [← String.toList_inj]
    simp [writtenCase, writtenRow, inner]
  rw [hline]
  exact .case (fun b hb => insideBrackets_written hb) (fun b hb => insideBrackets_written hb)
    isBlank_of_mem_space isBlank_of_mem_space (hrow c.1 fun n hn => h n (by simp [hn]))
    (hrow c.2 fun n hn => h n (by simp [hn]))

theorem linesOf_writtenSections (size speed : Nat) (cases : List (List Int × List Int)) :
    linesOf (writtenSections size speed cases) =
      .heading "goals" :: .statement (.setting "size" size) ::
        .statement (.setting "speed" speed) :: .heading "tests" ::
        cases.map fun c => .statement (.case c.1 c.2) := by
  simp [linesOf, writtenSections]

section

variable {size speed : Nat} {cases : List (List Int × List Int)} {level : Level}

theorem describes_written {text : String}
    (hlines : filledLines text = writtenLines size speed cases) (hsize : size < 10 ^ 4300)
    (hspeed : speed < 10 ^ 4300) (hcases : Short cases) :
    Describes text (writtenSections size speed cases) := by
  refine ⟨?_, by simp [writtenSections]⟩
  rw [hlines, linesOf_writtenSections]
  have hgoals : Says "goals:" (.heading "goals") := says_heading_iff.mpr (by decide)
  have htests : Says "tests:" (.heading "tests") := says_heading_iff.mpr (by decide)
  refine .cons hgoals (.cons (says_setting_written "size" (by decide) hsize)
    (.cons (says_setting_written "speed" (by decide) hspeed) (.cons htests ?_)))
  rw [List.forall₂_map_left_iff, List.forall₂_map_right_iff, List.forall₂_same]
  intro c hc
  exact says_writtenCase (hcases c hc)

theorem ofSections_written_eq_ok_iff :
    ofSections (writtenSections size speed cases) = .ok level ↔ Holds level size speed cases := by
  have hcases : casesOf (cases.map fun c => .case c.1 c.2) = cases := by
    simp [casesOf, Statement.numbers?, List.filterMap_map, Function.comp_def]
  have hdistinct : ((writtenSections size speed cases).map Section.name).Nodup := by
    simp [writtenSections]
  rw [ofSections_eq_ok_iff hdistinct, counts_iff hdistinct, holds_iff]
  simp only [writtenSections, sectionNamed?_cons]
  simp [firstSetting?, hcases, eq_comm, and_assoc]

theorem refused_written {f : LevelFailure}
    (h : ofSections (writtenSections size speed cases) = .error f) :
    ∃ title issues, f = .level (.invalid title issues) := by
  rcases ofSections_eq_error h with ⟨hgoals, -⟩ | ⟨goals, hgoals, -, hmissing⟩ | hinvalid
  · simp [writtenSections, sectionNamed?_cons] at hgoals
  · have hsettings : [.setting "size" (size : Int), .setting "speed" (speed : Int)] = goals := by
      simpa [writtenSections, sectionNamed?_cons] using hgoals
    subst hsettings
    simp [firstSetting?] at hmissing
  · exact hinvalid

theorem isLine_writtenRow (ns : List Int) : IsLine (writtenRow ns) := by
  -- the row up to some number is a line, and the space behind it joins the next
  have hfrom : ∀ (ns : List Int) (l : String), IsLine l →
      IsLine (l ++ " " ++ String.join (ns.map fun n => toString n ++ " ") ++ "]") := by
    intro ns
    induction ns with
    | nil =>
      intro l hl
      simpa using hl.append_space (b := "]") (by decide)
    | cons n ns ih =>
      intro l hl
      simpa [String.append_assoc] using ih _ (hl.append_space (isWord_toString n).isLine)
  exact hfrom ns "[" (by decide)

theorem isLine_setting (start : String) (hs : IsLine start) (n : Nat) :
    IsLine (start ++ " " ++ toString n) :=
  hs.append_space (isWord_toString_nat n).isLine

theorem filledLines_written (size speed : Nat) (cases : List (List Int × List Int)) :
    filledLines (joinLines (writtenLines size speed cases)) =
      writtenLines size speed cases := by
  apply filledLines_joinLines
  intro l hl
  simp only [writtenLines, List.mem_cons, List.mem_map] at hl
  rcases hl with rfl | rfl | rfl | rfl | ⟨c, -, rfl⟩
  · decide
  · exact isLine_setting "size =" (by decide) size
  · exact isLine_setting "speed =" (by decide) speed
  · decide
  · have hline := ((isLine_writtenRow c.1).append_space (b := "->") (by decide)).append_space
      (isLine_writtenRow c.2)
    simpa [writtenCase, String.append_assoc] using hline

end

/-! ## In YAML -/

section

variable {α : Type} [Layered α] {a : α} {size speed : Nat} {cases : List (List Int × List Int)}
  {level : Level}

/-- The value is a mapping with these goals and these tests. -/
def IsLevel (a : α) (size speed : Nat) (cases : List (List Int × List Int)) : Prop :=
  ∃ entries goals tests items, Layered.layer a = .map entries ∧
    Layer.field? "goals" entries = some goals ∧ IsGoals goals size speed ∧
    Layer.field? "tests" entries = some tests ∧ Layered.layer tests = .list items ∧
    List.Forall₂ IsCase items cases

theorem IsLevel.ofData_eq_ok_iff (h : IsLevel a size speed cases) :
    ofData a = .ok level ↔ Holds level size speed cases := by
  obtain ⟨entries, goals, tests, items, ha, hg, hgoals, ht, hitems, hcases⟩ := h
  simp only [ofData, testsOf, ha, hg, ht, hitems]
  rw [checked_eq_ok_iff, checkParts_eq_ok_iff, hgoals.check_eq_ok_iff, Checked.each_eq_ok_iff,
    checkCases_iff hcases, holds_iff, and_assoc]

theorem IsLevel.refused (h : IsLevel a size speed cases) {f : LevelFailure}
    (hf : ofData a = .error f) : ∃ title issues, f = .level (.invalid title issues) := by
  obtain ⟨entries, goals, tests, items, ha, hg, -, ht, hitems, hcases⟩ := h
  simp only [ofData, testsOf, ha, hg, ht, hitems] at hf
  have hquotes : ¬ Checked.Unquotable
      (checkParts (Goals.check goals) (Checked.each TestCase.check 0 items)) := by
    rw [unquotable_checkParts, Checked.unquotable_each]
    rintro (hdeep | ⟨t, ht, hdeep⟩)
    · exact Goals.not_unquotable_check goals hdeep
    · obtain ⟨b, hb, -⟩ := TestCase.unquotable_check_iff.mp hdeep
      obtain ⟨numbers, -, hcase⟩ := exists_of_forall₂ hcases ht
      exact hcase.not_quotes b hb
  obtain ⟨issues, rfl⟩ := checked_eq_error hquotes hf
  exact ⟨_, issues, rfl⟩

end

/-! ## Both -/

/-- **The formats agree.** Goals and cases whose numbers have at most 4300 digits can be written as
lines, and every text of these lines and every YAML document that holds the same numbers are read
alike: as the one level that has them if the cases are in range, and refused otherwise. -/
theorem formats_agree [Yaml.Reach] (size speed : Nat) (cases : List (List Int × List Int))
    (hsize : size < 10 ^ 4300) (hspeed : speed < 10 ^ 4300) (hcases : Short cases) :
    filledLines (joinLines (writtenLines size speed cases)) =
      writtenLines size speed cases ∧
    ∀ text yaml data, filledLines text = writtenLines size speed cases →
      Yaml.load yaml = .ok data → IsLevel data size speed cases →
      (InRange cases → ∃ level, ofText text = .ok level ∧ ofYaml yaml = .ok level ∧
        Holds level size speed cases) ∧
      (¬ InRange cases → Refused (ofText text) ∧ Refused (ofYaml yaml)) := by
  refine ⟨filledLines_written size speed cases, fun text yaml data hlines hload hdata => ?_⟩
  have hdescribes := describes_written hlines hsize hspeed hcases
  have hyaml : ofYaml yaml = ofData data := by rw [ofYaml, hload]
  rw [hdescribes.ofText_eq, hyaml]
  obtain ⟨htext, htext'⟩ := @reads_or_refuses size speed cases _
    (fun _ => ofSections_written_eq_ok_iff) (fun _ => refused_written)
  obtain ⟨hdoc, hdoc'⟩ := reads_or_refuses (fun _ => hdata.ofData_eq_ok_iff)
    (fun _ => hdata.refused)
  refine ⟨fun hrange => ?_, fun hrange => ⟨htext' hrange, hdoc' hrange⟩⟩
  obtain ⟨level, hlevel⟩ := exists_holds_iff.mpr hrange
  exact ⟨level, htext level hlevel, hdoc level hlevel, hlevel⟩

def sampleYaml (number : String) : String :=
  "tests:\n- output: [" ++ number ++ "]\n  input: []\ngoals:\n  size: 3\n  speed: 0x5\n"

def sampleData (n : Int) : Yaml.Value where
  places := #[.map [(.text "tests", 2), (.text "goals", 10)], .scalar (.text "tests"), .list [3],
    .map [(.text "output", 5), (.text "input", 8)], .scalar (.text "output"), .list [6],
    .scalar (.int n), .scalar (.text "input"), .list [], .scalar (.text "goals"),
    .map [(.text "size", 12), (.text "speed", 14)], .scalar (.text "size"), .scalar (.int 3),
    .scalar (.text "speed"), .scalar (.int 5)]
  place := 0

theorem isLevel_sampleData (n : Int) : IsLevel (sampleData n) 3 5 [([], [n])] := by
  refine ⟨_, _, _, _, rfl, rfl, ?goals, rfl, rfl, .cons ?test .nil⟩
  case goals => exact ⟨_, ⟨_, 12⟩, ⟨_, 14⟩, rfl, rfl, rfl, rfl, rfl⟩
  case test =>
    refine ⟨_, _, _, rfl, rfl, ⟨_, rfl, .nil⟩, rfl, ⟨_, rfl, .cons ?_ .nil⟩⟩
    rfl

theorem formats_agree_sample :
    (∃ level, ofText (joinLines (writtenLines 3 5 [([], [-7])])) = .ok level ∧
      ofYaml (sampleYaml "-7") = .ok level ∧ Holds level 3 5 [([], [-7])]) ∧
    Refused (ofText (joinLines (writtenLines 3 5 [([], [40000])]))) ∧
    Refused (ofYaml (sampleYaml "40000")) := by
  have hlimit : ∀ n < 10 ^ 5, n < 10 ^ 4300 := fun n hn => lt_pow_of_lt hn (by decide)
  have hagree := fun (n : Int) (hn : n.natAbs < 10 ^ 5) =>
    formats_agree 3 5 [([], [n])] (hlimit 3 (by decide)) (hlimit 5 (by decide))
      (by simpa only [Short, List.forall_mem_singleton, List.nil_append] using hlimit _ hn)
  have hseven : Yaml.load (sampleYaml "-7") = .ok (sampleData (-7)) := by decide +kernel
  have hlarge : Yaml.load (sampleYaml "40000") = .ok (sampleData 40000) := by decide +kernel
  obtain ⟨hlines, hread⟩ := hagree (-7) (by decide)
  obtain ⟨hlines', hrefuse⟩ := hagree 40000 (by decide)
  exact ⟨(hread _ _ _ hlines hseven (isLevel_sampleData _)).1 (by simp [InRange]),
    (hrefuse _ _ _ hlines' hlarge (isLevel_sampleData _)).2 (by simp [InRange])⟩

end Mailroom.Level
