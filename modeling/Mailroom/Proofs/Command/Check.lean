import Mailroom.Proofs.Command.Run
import Mailroom.Proofs.Data.Lookup
import Mailroom.Proofs.Files.Read
import Mailroom.Proofs.Program.WellFormed
import Mailroom.Proofs.Settings.Precedence
import Mathlib.Data.String.Basic

/-!
# Checking a program

`check` prints the size of a program and its labels. The labels are sorted by address and then by
name, and names are distinct, so the order of declaration is lost and nothing else: programs with
the same size and the same table of labels are printed alike. Programs that are printed alike have
the same size and table, because a name has letters only and ends where the colon stands.
-/

set_option autoImplicit false
set_option maxRecDepth 10000

namespace Mailroom

open Text

namespace Command

open Machine

/-! ## The table of labels -/

/-- A label comes before another: its address is smaller, or the addresses are the same and its name
is. -/
def Precedes (a b : String × Int) : Prop := a.2 < b.2 ∨ (a.2 = b.2 ∧ a.1 < b.1)

variable {p q : Program}

theorem sortedLabels_perm (p : Program) : (sortedLabels p).Perm p.labels := List.mergeSort_perm _ _

-- a label may also come before itself in the sort, which does not know that names are distinct
theorem pairwise_sortedLabels (p : Program) :
    (sortedLabels p).Pairwise fun a b => Precedes a b ∨ a = b := by
  have horder (a b : String × Int) :
      (decide (a.2 < b.2) || (a.2 == b.2 && decide (a.1 ≤ b.1))) = true ↔
        Precedes a b ∨ a = b := by
    simp only [Bool.or_eq_true, Bool.and_eq_true, decide_eq_true_eq, beq_iff_eq, Precedes,
      Prod.ext_iff, le_iff_lt_or_eq]
    tauto
  have hsorted : (sortedLabels p).Pairwise fun a b : String × Int =>
      (decide (a.2 < b.2) || (a.2 == b.2 && decide (a.1 ≤ b.1))) = true := by
    apply List.pairwise_mergeSort
    · intro a b c hab hbc
      simp only [Bool.or_eq_true, Bool.and_eq_true, decide_eq_true_eq, beq_iff_eq] at hab hbc ⊢
      rcases hab with hab | ⟨hab, hab'⟩
      · rcases hbc with hbc | ⟨hbc, -⟩ <;> left <;> omega
      · rcases hbc with hbc | ⟨hbc, hbc'⟩
        · left
          omega
        · exact Or.inr ⟨hab.trans hbc, le_trans hab' hbc'⟩
    · intro a b
      simp only [Bool.or_eq_true, Bool.and_eq_true, decide_eq_true_eq, beq_iff_eq]
      rcases lt_trichotomy a.2 b.2 with h | h | h
      · exact Or.inl (Or.inl h)
      · exact (le_total a.1 b.1).imp (fun hle => Or.inr ⟨h, hle⟩) fun hle => Or.inr ⟨h.symm, hle⟩
      · exact Or.inr (Or.inl h)
  exact hsorted.imp fun h => (horder _ _).mp h

theorem nodup_labels (hp : p.WellFormed) : p.labels.Nodup := hp.distinct.of_map _

theorem pairwise_precedes (hp : p.WellFormed) : (sortedLabels p).Pairwise Precedes := by
  have hnodup : (sortedLabels p).Nodup := (sortedLabels_perm p).nodup_iff.mpr (nodup_labels hp)
  exact (pairwise_sortedLabels p).imp₂ (fun _ _ h hne => h.resolve_right hne) hnodup

theorem Precedes.asymm {a b : String × Int} (h : Precedes a b) : ¬ Precedes b a := by
  rintro (hlt | ⟨heq, hlt⟩)
  · rcases h with h | ⟨h, -⟩ <;> omega
  · rcases h with h | ⟨-, h⟩
    · omega
    · exact lt_asymm h hlt

/-- The sorted table is the same exactly if the table is the same as a map. -/
theorem sortedLabels_eq_iff (hp : p.WellFormed) (hq : q.WellFormed) :
    sortedLabels p = sortedLabels q ↔ ∀ name, p.address? name = q.address? name := by
  have hperm : sortedLabels p = sortedLabels q ↔ p.labels.Perm q.labels := by
    constructor
    · intro h
      exact (sortedLabels_perm p).symm.trans (h ▸ sortedLabels_perm q)
    · intro h
      refine List.Perm.eq_of_pairwise (fun a b _ _ hab hba => absurd hba hab.asymm)
        (pairwise_precedes hp) (pairwise_precedes hq) ?_
      exact ((sortedLabels_perm p).trans h).trans (sortedLabels_perm q).symm
  rw [hperm, List.perm_ext_iff_of_nodup (nodup_labels hp) (nodup_labels hq)]
  simp only [Prod.forall, mem_iff_lookup hp.distinct, mem_iff_lookup hq.distinct]
  constructor
  · exact fun h name => Option.ext (h name)
  · intro h name address
    rw [← Program.address?, h, Program.address?]

/-! ## What is printed -/

def labelLine (l : String × Int) : String := "- " ++ l.1 ++ ": " ++ toString l.2

def checkLines (p : Program) : List String :=
  ("Instructions: " ++ toString p.size) :: (sortedLabels p).map labelLine

theorem unbroken_labelLine {l : String × Int} (h : IsName l.1) : Unbroken (labelLine l) := by
  have hdash : Unbroken "- " := by decide
  have hcolon : Unbroken ": " := by decide
  have hname : Unbroken l.1 := by
    intro c hc
    exact h.isWord_heading.unbroken c (by simp [hc])
  exact ((hdash.append hname).append hcolon).append (isWord_toString l.2).unbroken

theorem isName_of_mem_sortedLabels (hp : p.WellFormed) {l : String × Int}
    (hl : l ∈ sortedLabels p) : IsName l.1 :=
  hp.names l ((sortedLabels_perm p).mem_iff.mp hl)

theorem lines_checkText (hp : p.WellFormed) : lines (checkText p) = checkLines p := by
  apply lines_joinLines
  intro line hline
  rcases List.mem_cons.mp hline with rfl | hline
  · have hstart : Unbroken "Instructions: " := by decide
    exact hstart.append (isWord_toString_nat p.size).unbroken
  · obtain ⟨l, hl, rfl⟩ := List.mem_map.mp hline
    exact unbroken_labelLine (isName_of_mem_sortedLabels hp hl)

/-- The letters after the dash are the name, and what follows the colon is the number. -/
theorem labelLine_inj {l m : String × Int} (hl : IsName l.1) (hm : IsName m.1)
    (h : labelLine l = labelLine m) : l = m := by
  have hchars (k : String × Int) : (labelLine k).toList =
      '-' :: ' ' :: (k.1.toList ++ ':' :: ' ' :: (toString k.2).toList) := by
    simp [labelLine]
  -- a name has no colon in it, so the first one is that of the line
  have hcut (k : String × Int) (hk : IsName k.1) (rest : List Char) :
      (k.1.toList ++ ':' :: rest).takeWhile isLetter = k.1.toList := by
    have hcolon : isLetter ':' = false := by decide
    rw [List.takeWhile_append_of_pos hk.letters]
    simp [hcolon]
  have hrest : l.1.toList ++ ':' :: ' ' :: (toString l.2).toList =
      m.1.toList ++ ':' :: ' ' :: (toString m.2).toList := by
    have hlists := congrArg String.toList h
    rw [hchars, hchars] at hlists
    simpa using hlists
  have hname : l.1.toList = m.1.toList := by
    rw [← hcut l hl, hrest, hcut m hm]
  rw [hname] at hrest
  have hnumber : (toString l.2).toList = (toString m.2).toList := by
    simpa using List.append_cancel_left hrest
  exact Prod.ext (String.toList_inj.mp hname)
    (toString_int_injective (String.toList_inj.mp hnumber))

theorem map_labelLine_inj {ls ms : List (String × Int)} (hls : ∀ l ∈ ls, IsName l.1)
    (hms : ∀ m ∈ ms, IsName m.1) (h : ls.map labelLine = ms.map labelLine) : ls = ms := by
  induction ls generalizing ms with
  | nil => exact (List.map_eq_nil_iff.mp h.symm).symm
  | cons l ls ih =>
    cases ms with
    | nil => cases h
    | cons m ms =>
      obtain ⟨hline, hlines⟩ := List.cons.inj h
      rw [labelLine_inj (hls l (by simp)) (hms m (by simp)) hline,
        ih (fun k hk => hls k (by simp [hk])) (fun k hk => hms k (by simp [hk])) hlines]

theorem checkText_eq_iff (hp : p.WellFormed) (hq : q.WellFormed) :
    checkText p = checkText q ↔
      p.size = q.size ∧ ∀ name, p.address? name = q.address? name := by
  rw [← sortedLabels_eq_iff hp hq]
  constructor
  · intro h
    have hlines : checkLines p = checkLines q := by
      rw [← lines_checkText hp, h, lines_checkText hq]
    obtain ⟨hsize, hlabels⟩ := List.cons.inj hlines
    refine ⟨toString_nat_injective ((String.append_right_inj _).mp hsize), ?_⟩
    exact map_labelLine_inj (fun l => isName_of_mem_sortedLabels hp)
      (fun l => isName_of_mem_sortedLabels hq) hlabels
  · rintro ⟨hsize, hlabels⟩
    rw [checkText, checkText, hsize, hlabels]

/-! ## Calls -/

/-- A command line that calls `check` with a positive limit, on a file that holds this source. -/
structure CheckCall (sources : Sources) (files : Files.View) (words : List String)
    (source : String) extends Call .check sources files words where
  file_eq : Files.readBytes files programPath = .ok source.toUTF8.data.toList

variable {sources : Sources} {files : Files.View} {words : List String} {source : String}

theorem CheckCall.execute_eq [Yaml.Reach] (call : CheckCall sources files words source)
    (hload : Program.load Program.defaultHeader source = .ok p) :
    ∃ stderr, execute sources files words = .ok ⟨.status 0, checkText p, stderr⟩ := by
  have hlines := lines_unifyNewlines source
  have hprogram : Program.ofFile Program.defaultHeader files call.programPath = .ok p := by
    rw [Program.ofFile_of_readText (Files.readText_of_readBytes call.file_eq),
      Program.load_eq_of_lines_eq hlines, hload]
    rfl
  have hperform : performFile files call.inv call.programPath call.limit =
      .ok (⟨.status 0, checkText p, ""⟩, [p.loadedLine]) := by
    rw [performFile, hprogram]
    dsimp only
    rw [performOn, call.name_eq]
    rfl
  rw [call.execute_eq_performFile, hperform]
  exact ⟨_, rfl⟩

theorem parse_checkWords {bytes : List UInt8} (hfile : files "p.hrm" = .file bytes) :
    parse files ["check", "--program", "p.hrm"] =
      .ok ⟨.check, { program := .value "p.hrm" }⟩ := by
  have htop : Word.sortAll .top ["check", "--program", "p.hrm"] =
      .ok [⟨"check", .value⟩, ⟨"--program", .unknown⟩, ⟨"p.hrm", .value⟩] := rfl
  have hcommand : Word.sortAll (.command .check) ["--program", "p.hrm"] =
      .ok [⟨"--program", .option .program "--program" none⟩, ⟨"p.hrm", .value⟩] := rfl
  have hread : readCommand files .check ["--program", "p.hrm"] =
      .ok { program := .value "p.hrm" } := by
    rw [readCommand, sortWords, hcommand]
    refine bind_eq_ok_iff.mpr ⟨_, rfl, ?_⟩
    exact bind_eq_ok_iff.mpr ⟨_, readWords_one rfl (give_program hfile), rfl⟩
  have hname : Name.ofText? "check" = some .check := by decide
  rw [parse, sortWords, htop]
  refine bind_eq_ok_iff.mpr ⟨_, rfl, ?_⟩
  simp only [readTop, hname, List.map_cons, List.map_nil, hread]
  rfl

def CheckCall.plain {settings : Settings} (hsettings : Settings.load sources = .ok settings)
    (hfile : files "p.hrm" = .file source.toUTF8.data.toList) :
    CheckCall sources files ["check", "--program", "p.hrm"] source where
  settings := settings
  inv := ⟨.check, { program := .value "p.hrm" }⟩
  logLevel := defaultLevel settings
  cycleLimit := settings.cycleLimit
  limit := settings.cycleLimit
  programPath := "p.hrm"
  settings_eq := hsettings
  parse_eq := parse_checkWords hfile
  name_eq := rfl
  logLevel_eq := rfl
  cycleLimit_eq := rfl
  limit_eq := checkLimit_natCast (Settings.one_le_cycleLimit_of_load hsettings)
  programPath_eq := rfl
  file_eq := readBytes_program hfile

/-- **What `check` prints is a canonical form of the labels.** A call of `check` on a source that
loads ends well. Two such calls print the same exactly if the programs have the same size and the
same table of labels, whatever the order of declaration. After the line of the size there is a line
for each label, and each label comes before the next, by address and then by name. -/
theorem check_prints_canonical_labels [Yaml.Reach] (source source' : String) (p p' : Program)
    (hload : Program.load Program.defaultHeader source = .ok p)
    (hload' : Program.load Program.defaultHeader source' = .ok p')
    (sources sources' : Sources) (files files' : Files.View) (words words' : List String)
    (call : CheckCall sources files words source)
    (call' : CheckCall sources' files' words' source') :
    ∃ outcome outcome',
      execute sources files words = .ok outcome ∧ outcome.exit = .status 0 ∧
      execute sources' files' words' = .ok outcome' ∧ outcome'.exit = .status 0 ∧
      (outcome.stdout = outcome'.stdout ↔
        p.size = p'.size ∧ ∀ name, p.address? name = p'.address? name) ∧
      ∃ labels : List (String × Int), lines outcome.stdout =
          ("Instructions: " ++ toString p.size) :: labels.map labelLine ∧
        labels.Perm p.labels ∧ labels.Pairwise Precedes := by
  have hp := Program.wellFormed_of_load hload
  have hp' := Program.wellFormed_of_load hload'
  obtain ⟨stderr, hexecute⟩ := call.execute_eq hload
  obtain ⟨stderr', hexecute'⟩ := call'.execute_eq hload'
  refine ⟨_, _, hexecute, rfl, hexecute', rfl, checkText_eq_iff hp hp', sortedLabels p, ?_,
    sortedLabels_perm p, pairwise_precedes hp⟩
  exact lines_checkText hp

def sampleSource (body : String) : Files.View := fun path =>
  if path = "p.hrm" then .file (Program.defaultHeader ++ body).toUTF8.data.toList else .missing

/-- Two labels of one address are declared in either order, before different instructions; and once
more with another name. -/
theorem check_prints_canonical_labels_at_shared_address :
    ∃ a b c, execute ⟨[], .missing, []⟩ (sampleSource "\ny:\nx:\nINBOX\n")
        ["check", "--program", "p.hrm"] = .ok a ∧
      execute ⟨[], .missing, []⟩ (sampleSource "\nx:\ny:\nOUTBOX\n")
        ["check", "--program", "p.hrm"] = .ok b ∧
      execute ⟨[], .missing, []⟩ (sampleSource "\nx:\nz:\nINBOX\n")
        ["check", "--program", "p.hrm"] = .ok c ∧
      a.stdout = b.stdout ∧ a.stdout ≠ c.stdout := by
  have hsettings : Settings.load ⟨[], .missing, []⟩ =
      .ok ⟨Settings.defaultCycleLimit, Settings.defaultLogLevel⟩ := by decide +kernel
  have hyx : Program.load Program.defaultHeader (Program.defaultHeader ++ "\ny:\nx:\nINBOX\n") =
      .ok ⟨[.instruction .inbox], [("y", 0), ("x", 0)]⟩ := rfl
  have hxy : Program.load Program.defaultHeader (Program.defaultHeader ++ "\nx:\ny:\nOUTBOX\n") =
      .ok ⟨[.instruction .outbox], [("x", 0), ("y", 0)]⟩ := rfl
  have hxz : Program.load Program.defaultHeader (Program.defaultHeader ++ "\nx:\nz:\nINBOX\n") =
      .ok ⟨[.instruction .inbox], [("x", 0), ("z", 0)]⟩ := rfl
  have hcall (body : String) : CheckCall ⟨[], .missing, []⟩ (sampleSource body)
      ["check", "--program", "p.hrm"] (Program.defaultHeader ++ body) := .plain hsettings rfl
  obtain ⟨a, b, ha, -, hb, -, hab, -⟩ :=
    check_prints_canonical_labels _ _ _ _ hyx hxy _ _ _ _ _ _ (hcall _) (hcall _)
  obtain ⟨a', c, ha', -, hc, -, hac, -⟩ :=
    check_prints_canonical_labels _ _ _ _ hyx hxz _ _ _ _ _ _ (hcall _) (hcall _)
  obtain rfl : a = a' := Except.ok.inj (ha.symm.trans ha')
  refine ⟨a, b, c, ha, hb, hc, hab.mpr ⟨rfl, fun name => ?_⟩, fun h => ?_⟩
  · simp only [Program.address?, lookup_cons_eq_ite]
    by_cases hx : name = "x" <;> simp [hx]
  · exact absurd ((hac.mp h).2 "y") (by decide)

end Command

end Mailroom
