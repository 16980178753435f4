import Mailroom.Proofs.Level.Sections

/-!
# The grammar of levels

What a level takes from its sections is `Counts`: the first size and the first speed of the goals,
and the cases of the tests. The checks at the end refuse a number of the tests that is out of range
and nothing else, since the settings of a text are never negative. What is not in `essential` is
read and then has no effect, on faults no more than on levels.
-/

set_option autoImplicit false

namespace Mailroom.Level

open Text

/-! ## What counts -/

/-- The number is that of the first setting of this name. -/
def FirstSetting (name : String) (statements : List Statement) (n : Int) : Prop :=
  ∃ before after, statements = before ++ .setting name n :: after ∧ ∀ m, .setting name m ∉ before

def Statement.numbers? : Statement → Option (List Int × List Int)
  | .setting _ _ => none
  | .case input output => some (input, output)

def casesOf (statements : List Statement) : List (List Int × List Int) :=
  statements.filterMap Statement.numbers?

/-- The sections give a level these goals and cases. -/
structure Counts (ss : List Section) (size speed : Int) (cases : List (List Int × List Int)) :
    Prop where
  goals : ∃ statements, ⟨"goals", statements⟩ ∈ ss ∧ FirstSetting "size" statements size ∧
    FirstSetting "speed" statements speed
  tests : (∃ statements, ⟨"tests", statements⟩ ∈ ss ∧ cases = casesOf statements) ∨
    ("tests" ∉ ss.map Section.name ∧ cases = [])

theorem sectionNamed?_cons (s : Section) (ss : List Section) (name : String) :
    sectionNamed? (s :: ss) name =
      if s.name = name then some s.statements else sectionNamed? ss name := by
  by_cases h : s.name = name <;> simp [sectionNamed?, h]

theorem sectionNamed?_eq_some_iff {ss : List Section} {name : String} {statements : List Statement}
    (hss : (ss.map Section.name).Nodup) :
    sectionNamed? ss name = some statements ↔ ⟨name, statements⟩ ∈ ss := by
  induction ss with
  | nil => simp [sectionNamed?]
  | cons s ss ih =>
    obtain ⟨hnew, hss⟩ := List.nodup_cons.mp hss
    rw [sectionNamed?_cons, List.mem_cons]
    by_cases hname : s.name = name
    · subst hname
      have hnot : ⟨s.name, statements⟩ ∉ ss := fun hmem => hnew (List.mem_map.mpr ⟨_, hmem, rfl⟩)
      obtain ⟨n, sts⟩ := s
      simp [hnot, eq_comm]
    · have hne : (⟨name, statements⟩ : Section) ≠ s := by
        rintro rfl
        exact hname rfl
      rw [if_neg hname, ih hss, or_iff_right hne]

theorem sectionNamed?_eq_none_iff {ss : List Section} {name : String} :
    sectionNamed? ss name = none ↔ name ∉ ss.map Section.name := by
  simp [sectionNamed?]

theorem firstSetting_cons_self {name : String} {rest : List Statement} {m n : Int} :
    FirstSetting name (.setting name m :: rest) n ↔ m = n := by
  constructor
  · rintro ⟨before, after, h, hbefore⟩
    cases before with
    | nil =>
      simp only [List.nil_append, List.cons.injEq, Statement.setting.injEq, true_and] at h
      exact h.1
    | cons b bs =>
      obtain ⟨rfl, -⟩ := List.cons.inj h
      exact absurd (by simp) (hbefore m)
  · rintro rfl
    exact ⟨[], rest, rfl, by simp⟩

theorem firstSetting_cons_other {name : String} {s : Statement} {rest : List Statement} {n : Int}
    (hs : ∀ m, s ≠ .setting name m) :
    FirstSetting name (s :: rest) n ↔ FirstSetting name rest n := by
  constructor
  · rintro ⟨before, after, h, hbefore⟩
    cases before with
    | nil => exact absurd (List.cons.inj h).1 (hs n)
    | cons b bs =>
      exact ⟨bs, after, (List.cons.inj h).2, fun m hm => hbefore m (by simp [hm])⟩
  · rintro ⟨before, after, rfl, hbefore⟩
    refine ⟨s :: before, after, rfl, fun m hm => ?_⟩
    rcases List.mem_cons.mp hm with h | hm
    · exact hs m h.symm
    · exact hbefore m hm

theorem firstSetting?_eq_some_iff {name : String} {statements : List Statement} {n : Int} :
    firstSetting? name statements = some n ↔ FirstSetting name statements n := by
  induction statements with
  | nil => simp [firstSetting?, FirstSetting]
  | cons s rest ih =>
    cases s with
    | setting key m =>
      by_cases hkey : key = name
      · subst hkey
        simp [firstSetting?, firstSetting_cons_self]
      · rw [firstSetting?, if_neg hkey, ih, firstSetting_cons_other (by simp [hkey])]
    | case input output => rw [firstSetting?, ih, firstSetting_cons_other (by simp)]

theorem exists_firstSetting_iff {name : String} {statements : List Statement} :
    (∃ n, FirstSetting name statements n) ↔ ∃ n, .setting name n ∈ statements := by
  constructor
  · rintro ⟨n, before, after, rfl, -⟩
    exact ⟨n, by simp⟩
  · rintro ⟨n, hn⟩
    induction statements with
    | nil => cases hn
    | cons s rest ih =>
      by_cases hs : ∃ m, s = .setting name m
      · obtain ⟨m, rfl⟩ := hs
        exact ⟨m, firstSetting_cons_self.mpr rfl⟩
      · rcases List.mem_cons.mp hn with rfl | hn
        · exact absurd ⟨n, rfl⟩ hs
        · obtain ⟨m, hm⟩ := ih hn
          exact ⟨m, (firstSetting_cons_other fun k hk => hs ⟨k, hk⟩).mpr hm⟩

theorem isGoals_settings (size speed : Int) :
    IsGoals (Data.map [("size", .int size), ("speed", .int speed)]) size speed :=
  ⟨_, .int size, .int speed, rfl, rfl, rfl, rfl, rfl⟩

theorem isIntList_ints (ns : List Int) : IsIntList (Data.list (ns.map Data.int)) ns := by
  refine ⟨_, rfl, ?_⟩
  rw [List.forall₂_map_left_iff, List.forall₂_same]
  intro n _
  rfl

theorem isCase_caseData (statements : List Statement) :
    List.Forall₂ IsCase (caseData statements) (casesOf statements) := by
  induction statements with
  | nil => exact .nil
  | cons s rest ih =>
    cases s with
    | setting key n => exact ih
    | case input output =>
      exact .cons ⟨_, _, _, rfl, rfl, isIntList_ints input, rfl, isIntList_ints output⟩ ih

theorem checked_eq_ok_iff {α : Type} {title : String} {c : Schema.Checked α} {a : α} :
    checked title c = .ok a ↔ c = .ok a := by
  cases c with
  | ok => simp [checked]
  | error issues =>
    simp only [checked]
    split <;> simp

theorem checkCases_eq_ok_iff {ds : List Data} {cases : List (List Int × List Int)}
    {tests : List TestCase} (h : List.Forall₂ IsCase ds cases) :
    ds.mapM (fun d => checked TestCase.title (TestCase.check d)) = .ok tests ↔
      tests.map TestCase.numbers = cases := by
  rw [mapM_eq_ok_iff]
  simp only [checked_eq_ok_iff]
  exact checkCases_iff h

theorem counts_iff {ss : List Section} {size speed : Int} {cases : List (List Int × List Int)}
    (hss : (ss.map Section.name).Nodup) :
    Counts ss size speed cases ↔
      (∃ statements, sectionNamed? ss "goals" = some statements ∧
        firstSetting? "size" statements = some size ∧
        firstSetting? "speed" statements = some speed) ∧
      cases = casesOf ((sectionNamed? ss "tests").getD []) := by
  simp only [sectionNamed?_eq_some_iff hss, firstSetting?_eq_some_iff]
  have htests : cases = casesOf ((sectionNamed? ss "tests").getD []) ↔
      (∃ statements, ⟨"tests", statements⟩ ∈ ss ∧ cases = casesOf statements) ∨
        ("tests" ∉ ss.map Section.name ∧ cases = []) := by
    simp only [← sectionNamed?_eq_some_iff hss, ← sectionNamed?_eq_none_iff]
    cases sectionNamed? ss "tests" <;> simp [casesOf]
  rw [htests]
  exact ⟨fun h => ⟨h.goals, h.tests⟩, fun h => ⟨h.1, h.2⟩⟩

/-- Sections make a level when they give it goals and cases that it can hold. -/
theorem ofSections_eq_ok_iff {ss : List Section} {level : Level}
    (hss : (ss.map Section.name).Nodup) :
    ofSections ss = .ok level ↔
      Counts ss level.goals.size level.goals.speed (level.tests.map TestCase.numbers) := by
  rw [counts_iff hss]
  cases hg : sectionNamed? ss "goals" with
  | none => simp [ofSections, hg]
  | some goals =>
    simp only [ofSections, hg]
    cases hsize : firstSetting? "size" goals with
    | none => simp [hsize]
    | some size =>
      cases hspeed : firstSetting? "speed" goals with
      | none => simp [hspeed]
      | some speed =>
        simp only [bind_eq_ok_iff, checked_eq_ok_iff, (isGoals_settings size speed).check_eq_ok_iff,
          checkCases_eq_ok_iff (isCase_caseData _)]
        constructor
        · rintro ⟨g, ⟨rfl, rfl⟩, tests, htests, h⟩
          cases h
          exact ⟨⟨goals, rfl, hsize, hspeed⟩, htests⟩
        · rintro ⟨⟨statements, hgoals, hsize', hspeed'⟩, htests⟩
          cases hgoals
          rw [hsize] at hsize'
          rw [hspeed] at hspeed'
          exact ⟨level.goals, ⟨(Option.some.inj hsize').symm, (Option.some.inj hspeed').symm⟩,
            level.tests, htests, rfl⟩

theorem ofText_eq_ok_iff {text : String} {level : Level} :
    ofText text = .ok level ↔ ∃ ss, Describes text ss ∧
      Counts ss level.goals.size level.goals.speed (level.tests.map TestCase.numbers) := by
  simp only [ofText]
  constructor
  · intro h
    split at h
    · rename_i ss hss
      have hd := readSections_eq_ok_iff.mp hss
      exact ⟨ss, hd, (ofSections_eq_ok_iff hd.distinct).mp h⟩
    · cases h
  · rintro ⟨ss, hd, hcounts⟩
    rw [readSections_eq_ok_iff.mpr hd]
    exact (ofSections_eq_ok_iff hd.distinct).mpr hcounts

/-! ## What has no effect -/

def Statement.mayCount (name : String) : Statement → Bool
  | .setting key _ => name == "goals" && (key == "size" || key == "speed")
  | .case _ _ => name == "tests"

/-- The sections without all that has no effect. -/
def essential (ss : List Section) : List Section :=
  (ss.filter fun s => s.name == "goals" || s.name == "tests").map fun s =>
    { s with statements := s.statements.filter (Statement.mayCount s.name) }

theorem sectionNamed?_essential (ss : List Section) {name : String}
    (hname : name = "goals" ∨ name = "tests") :
    sectionNamed? (essential ss) name =
      (sectionNamed? ss name).map (List.filter (Statement.mayCount name)) := by
  induction ss with
  | nil => rfl
  | cons s ss ih =>
    rw [sectionNamed?_cons]
    by_cases hs : s.name = name
    · have hkept : (s.name == "goals" || s.name == "tests") = true := by simpa [hs] using hname
      rw [essential, List.filter_cons, if_pos hkept, List.map_cons, sectionNamed?_cons, if_pos hs,
        if_pos hs, hs]
      rfl
    · rw [if_neg hs, ← ih, essential, List.filter_cons]
      split
      · rw [List.map_cons, sectionNamed?_cons, if_neg hs]
        rfl
      · rfl

theorem firstSetting?_filter {key : String} (hkey : key = "size" ∨ key = "speed")
    (statements : List Statement) :
    firstSetting? key (statements.filter (Statement.mayCount "goals")) =
      firstSetting? key statements := by
  induction statements with
  | nil => rfl
  | cons s rest ih =>
    cases s with
    | setting name n =>
      rw [List.filter_cons]
      by_cases hname : name = key
      · have hkept : (Statement.setting name n).mayCount "goals" = true := by
          simpa [Statement.mayCount, hname] using hkey
        rw [if_pos hkept, firstSetting?, firstSetting?, if_pos hname, if_pos hname]
      · rw [firstSetting?, if_neg hname]
        split
        · rw [firstSetting?, if_neg hname, ih]
        · exact ih
    | case input output =>
      -- a case among the goals is no setting, and it is not looked at either way
      have hdropped : (Statement.case input output).mayCount "goals" = false := by
        simp [Statement.mayCount]
      rw [List.filter_cons_of_neg (by simp [hdropped]), ih, firstSetting?]

theorem caseData_filter (statements : List Statement) :
    caseData (statements.filter (Statement.mayCount "tests")) = caseData statements := by
  induction statements with
  | nil => rfl
  | cons s rest ih =>
    cases s with
    | setting key n =>
      have hdropped : (Statement.setting key n).mayCount "tests" = false := by
        simp [Statement.mayCount]
      rw [List.filter_cons_of_neg (by simp [hdropped]), ih, caseData]
    | case input output =>
      rw [List.filter_cons_of_pos (by simp [Statement.mayCount]), caseData, caseData, ih]

theorem ofSections_essential (ss : List Section) : ofSections (essential ss) = ofSections ss := by
  have hcases : caseData ((sectionNamed? (essential ss) "tests").getD []) =
      caseData ((sectionNamed? ss "tests").getD []) := by
    rw [sectionNamed?_essential ss (.inr rfl)]
    cases sectionNamed? ss "tests" with
    | none => rfl
    | some tests => exact caseData_filter tests
  unfold ofSections
  rw [hcases, sectionNamed?_essential ss (.inl rfl)]
  cases sectionNamed? ss "goals" with
  | none => rfl
  | some goals =>
    simp only [Option.map_some, firstSetting?_filter (.inl rfl), firstSetting?_filter (.inr rfl)]

theorem Describes.ofText_eq {text : String} {ss : List Section} (h : Describes text ss) :
    ofText text = ofSections ss := by
  rw [ofText, readSections_eq_ok_iff.mpr h]

/-! ## Levels -/

/-- The numbers of these cases are all numbers of cells. -/
def InRange (cases : List (List Int × List Int)) : Prop :=
  ∀ c ∈ cases, ∀ n ∈ c.1 ++ c.2, -32768 ≤ n ∧ n ≤ 32767

theorem exists_tests_iff {cases : List (List Int × List Int)} :
    (∃ tests : List TestCase, tests.map TestCase.numbers = cases) ↔ InRange cases := by
  constructor
  · rintro ⟨tests, rfl⟩ c hc
    obtain ⟨t, -, ht⟩ := List.mem_map.mp hc
    exact TestCase.exists_numbers_iff.mp ⟨t, ht⟩
  · intro h
    induction cases with
    | nil => exact ⟨[], rfl⟩
    | cons c cases ih =>
      obtain ⟨t, ht⟩ := TestCase.exists_numbers_iff.mpr (h c (by simp))
      obtain ⟨ts, hts⟩ := ih fun d hd => h d (by simp [hd])
      exact ⟨t :: ts, by rw [List.map_cons, ht, hts]⟩

theorem Describes.exists_level {text : String} {ss : List Section} (h : Describes text ss)
    {goals : List Statement} (hgoals : ⟨"goals", goals⟩ ∈ ss)
    (hsize : ∃ n, .setting "size" n ∈ goals) (hspeed : ∃ n, .setting "speed" n ∈ goals)
    (htests : ∀ tests, ⟨"tests", tests⟩ ∈ ss → InRange (casesOf tests)) :
    ∃ level, ofText text = .ok level := by
  obtain ⟨size, hsize⟩ := exists_firstSetting_iff.mpr hsize
  obtain ⟨speed, hspeed⟩ := exists_firstSetting_iff.mpr hspeed
  have hnonneg : ∀ {key : String} {n : Int}, FirstSetting key goals n → 0 ≤ n := by
    rintro key n ⟨before, after, hstatements, -⟩
    have hmem : .setting key n ∈ goals := by simp [hstatements]
    exact h.setting_nonneg hgoals hmem
  have hrange : InRange (casesOf ((sectionNamed? ss "tests").getD [])) := by
    cases htests' : sectionNamed? ss "tests" with
    | none => simp [InRange, casesOf]
    | some tests => exact htests tests ((sectionNamed?_eq_some_iff h.distinct).mp htests')
  obtain ⟨tests, htests⟩ := exists_tests_iff.mpr hrange
  refine ⟨⟨⟨size.toNat, speed.toNat⟩, tests⟩, ofText_eq_ok_iff.mpr ⟨ss, h, ?_⟩⟩
  rw [Int.toNat_of_nonneg (hnonneg hsize), Int.toNat_of_nonneg (hnonneg hspeed)]
  refine (counts_iff h.distinct).mpr ⟨⟨goals, (sectionNamed?_eq_some_iff h.distinct).mpr hgoals,
    firstSetting?_eq_some_iff.mpr hsize, firstSetting?_eq_some_iff.mpr hspeed⟩, htests⟩

/-- **The texts that are levels, and the levels that they are.** A text is read when its lines are
those of sections with different names, of which one is the goals with a size and a speed, and the
numbers of the tests are in range. Its level has what `Counts` says, and two texts that differ only
in what has no effect are read alike, also when they are not levels. -/
theorem ofText_reads_described_level (text : String) :
    ((∃ level, ofText text = .ok level) ↔
      ∃ ss, Describes text ss ∧
        (∃ goals, ⟨"goals", goals⟩ ∈ ss ∧ (∃ n, .setting "size" n ∈ goals) ∧
          ∃ n, .setting "speed" n ∈ goals) ∧
        ∀ tests, ⟨"tests", tests⟩ ∈ ss → InRange (casesOf tests)) ∧
    (∀ level ss, ofText text = .ok level → Describes text ss →
      Counts ss level.goals.size level.goals.speed (level.tests.map TestCase.numbers)) ∧
    ∀ text' ss ss', Describes text ss → Describes text' ss' → essential ss = essential ss' →
      ofText text = ofText text' := by
  refine ⟨⟨?_, ?_⟩, ?_, ?_⟩
  · rintro ⟨level, hlevel⟩
    obtain ⟨ss, hd, hcounts⟩ := ofText_eq_ok_iff.mp hlevel
    obtain ⟨goals, hgoals, hsize, hspeed⟩ := hcounts.goals
    refine ⟨ss, hd, ⟨goals, hgoals, exists_firstSetting_iff.mp ⟨_, hsize⟩,
      exists_firstSetting_iff.mp ⟨_, hspeed⟩⟩, fun tests htests => ?_⟩
    have hcases := ((counts_iff hd.distinct).mp hcounts).2
    rw [(sectionNamed?_eq_some_iff hd.distinct).mpr htests] at hcases
    exact exists_tests_iff.mp ⟨level.tests, hcases⟩
  · rintro ⟨ss, hd, ⟨goals, hgoals, hsize, hspeed⟩, htests⟩
    exact hd.exists_level hgoals hsize hspeed htests
  · intro level ss hlevel hd
    rw [hd.ofText_eq] at hlevel
    exact (ofSections_eq_ok_iff hd.distinct).mp hlevel
  · intro text' ss ss' hd hd' hsame
    rw [hd.ofText_eq, hd'.ofText_eq, ← ofSections_essential ss, hsame, ofSections_essential]

def notedText : String :=
  "goals:\nsize = 3\nsize = 4\nspeed=5\nnotes:\n[ 40000 ] -> [ ]\ntests:\n[1 -2]->[ ]"

theorem ofText_reads_described_level_with_notes :
    ∃ ss, Describes notedText ss ∧ Counts ss 3 5 [([1, -2], [])] := by
  have h : ofText notedText =
      .ok ⟨⟨3, 5⟩, [⟨[⟨1, by decide⟩, ⟨-2, by decide⟩], []⟩]⟩ := by rfl
  obtain ⟨ss, hd, -⟩ := (ofText_reads_described_level _).1.mp ⟨_, h⟩
  exact ⟨ss, hd, (ofText_reads_described_level _).2.1 _ ss h hd⟩

end Mailroom.Level
